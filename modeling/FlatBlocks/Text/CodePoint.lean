/-! Texts as sequences of code points. A text may hold half of a surrogate pair
that stands alone: JSON can spell one, and it is kept as it is. -/

namespace FlatBlocks

/-- A character, or half of a surrogate pair: U+D800 plus an offset. -/
inductive CodePoint where
  | char (c : Char)
  | surrogate (offset : Fin 0x800)
  deriving DecidableEq, Repr, Inhabited

instance : Coe Char CodePoint := ⟨.char⟩

abbrev Text := List CodePoint

namespace CodePoint

def toNat : CodePoint → Nat
  | char c => c.toNat
  | surrogate offset => 0xD800 + offset.val

/-- The code point of a number; one that is too large gives that of zero. -/
def ofNat (n : Nat) : CodePoint :=
  if h : 0xD800 ≤ n ∧ n < 0xE000 then surrogate ⟨n - 0xD800, by omega⟩ else char (Char.ofNat n)

def isSurrogate : CodePoint → Bool
  | char _ => false
  | surrogate _ => true

theorem ofNat_toNat (p : CodePoint) : ofNat p.toNat = p := by
  cases p with
  | char c =>
    have hc := c.valid
    have hn : c.toNat = c.val.toNat := rfl
    simp only [UInt32.isValidChar, Nat.isValidChar] at hc
    rw [toNat, ofNat, dif_neg (by omega), Char.ofNat_toNat]
  | surrogate offset =>
    have := offset.isLt
    rw [toNat, ofNat, dif_pos (by omega)]
    simp

end CodePoint

namespace Text

def ofChars (chars : List Char) : Text := chars.map .char

def ofString (s : String) : Text := ofChars s.toList

instance : Coe String Text := ⟨ofString⟩

/-- The characters of a text, if it holds nothing else. -/
def toChars? : Text → Option (List Char)
  | [] => some []
  | .char c :: rest => (toChars? rest).map (c :: ·)
  | .surrogate _ :: _ => none

def toString? (t : Text) : Option String := t.toChars?.map String.ofList

/-- What follows a word at the head of a text, if it stands there. -/
def after? : (word : Text) → Text → Option Text
  | [], s => some s
  | _ :: _, [] => none
  | c :: word, d :: s => if c = d then after? word s else none

theorem length_of_after? {word s rest : Text} (h : after? word s = some rest) :
    s.length = word.length + rest.length := by
  fun_induction after? word s with
  | case1 s => simp_all
  | case2 => simp at h
  | case3 c word s ih => simp only [List.length_cons, ih h]; omega
  | case4 => simp at h

/-- Texts in the order of their code points. -/
def precedes : Text → Text → Bool
  | [], _ => true
  | _ :: _, [] => false
  | a :: s, b :: t => a.toNat < b.toNat || (a.toNat == b.toNat && precedes s t)

end Text

end FlatBlocks
