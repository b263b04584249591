import FlatBlocks.Text.CodePoint

/-! Texts that are written piece by piece. Writing may break off, and what has been
written by then is kept. -/

namespace FlatBlocks.Text

/-- What has been written of a text, and the fault at which it broke off, if it did. -/
structure Written (ε : Type) where
  text : Text
  fault? : Option ε := none
  deriving DecidableEq, Repr

namespace Written

variable {ε ε' : Type}

def mapFault (f : ε → ε') (w : Written ε) : Written ε' := ⟨w.text, w.fault?.map f⟩

/-- A text that is written at once, or not at all. -/
def ofExcept : Except ε Text → Written ε
  | .ok text => { text }
  | .error fault => ⟨[], some fault⟩

end Written

end FlatBlocks.Text
