import FlatBlocks.Markup.Cache
import FlatBlocks.Proofs.Markup.Nodes
import Mathlib.Data.List.Basic
import Mathlib.Data.List.Dedup
import Mathlib.Data.Finset.Dedup
import Mathlib.Data.Finset.Card

/-! # The cache forgets what was used longest ago

The kept texts are the first of the texts in the order of their last use. So a text is
found if and only if, since the last clearing, it was parsed and fewer other texts than can
be kept were parsed after that. A text that is found gives the very tree that was given
before, and one that is not a tree with a number of its own. -/

namespace FlatBlocks.Markup

/-- A use of the cache. -/
inductive Call where
  | parse (source : Source)
  | clear
  deriving DecidableEq, Repr

/-- The text of a source can be parsed. -/
def Source.Accepted (source : Source) : Prop := ∃ nodes, Markup.parse source.spelling = .ok nodes

namespace Cache

/-! ## Texts in the order of their use -/

/-- Put a text before all others. -/
def promote (t : Text) (texts : List Text) : List Text := t :: texts.filter (· != t)

/-- The texts of a list that gives the latest one first, each at its first place. -/
def distinct : List Text → List Text
  | [] => []
  | t :: earlier => promote t (distinct earlier)

theorem mem_distinct {t : Text} {texts : List Text} : t ∈ distinct texts ↔ t ∈ texts := by
  induction texts with
  | nil => rfl
  | cons first earlier ih =>
    rw [distinct, promote, List.mem_cons, List.mem_cons, List.mem_filter, ih]
    by_cases h : t = first <;> simp [h]

theorem nodup_distinct (texts : List Text) : (distinct texts).Nodup := by
  induction texts with
  | nil => exact List.nodup_nil
  | cons first earlier ih =>
    exact List.nodup_cons.mpr ⟨by simp, ih.filter _⟩

/-- Leaving a text out of a list without repetitions makes room for at most one more. -/
theorem take_filter_take {t : Text} {texts : List Text} (h : texts.Nodup) (n : Nat) :
    ((texts.take (n + 1)).filter (· != t)).take n = (texts.filter (· != t)).take n := by
  induction texts generalizing n with
  | nil => rfl
  | cons first rest ih =>
    obtain ⟨hfirst, hrest⟩ := List.nodup_cons.mp h
    rw [List.take_succ_cons]
    by_cases ht : first = t
    · subst ht
      have hall : ∀ s ∈ rest, (s != first) = true := by
        rintro s hs
        simpa using fun he : s = first => hfirst (he ▸ hs)
      rw [List.filter_cons_of_neg (by simp), List.filter_cons_of_neg (by simp),
        List.filter_eq_self.mpr hall,
        List.filter_eq_self.mpr fun s hs => hall s (List.mem_of_mem_take hs), List.take_take,
        Nat.min_self]
    · have hkeep : (first != t) = true := by simpa using ht
      rw [List.filter_cons_of_pos (p := (· != t)) hkeep,
        List.filter_cons_of_pos (p := (· != t)) hkeep]
      cases n with
      | zero => rfl
      | succ n => rw [List.take_succ_cons, List.take_succ_cons, ih hrest]

/-- Of the texts behind the first ones, none gets among them when another text is put first. -/
theorem take_promote (t : Text) {texts : List Text} (h : texts.Nodup) (n : Nat) :
    (promote t (texts.take n)).take n = (promote t texts).take n := by
  cases n with
  | zero => rfl
  | succ n => rw [promote, promote, List.take_succ_cons, List.take_succ_cons, take_filter_take h]

/-- What stands before a text are the distinct texts that are later than its last use. -/
theorem exists_distinct_split {t : Text} {texts : List Text} (h : t ∈ texts) :
    ∃ before after, distinct texts = before ++ t :: after ∧
      before.toFinset = (texts.takeWhile (· != t)).toFinset := by
  induction texts with
  | nil => cases h
  | cons first earlier ih =>
    by_cases hfirst : first = t
    · subst hfirst
      exact ⟨[], _, rfl, by simp⟩
    · have hne : (t != first) = true := by simpa using Ne.symm hfirst
      obtain ⟨before, after, hsplit, hset⟩ :=
        ih ((List.mem_cons.mp h).resolve_left (Ne.symm hfirst))
      refine ⟨first :: before.filter (· != first), after.filter (· != first), ?_, ?_⟩
      · rw [distinct, promote, hsplit, List.filter_append,
          List.filter_cons_of_pos (p := (· != first)) hne]
        rfl
      · rw [List.takeWhile_cons_of_pos (by simpa using hfirst), List.toFinset_cons,
          List.toFinset_cons, ← hset]
        ext s
        by_cases hs : s = first <;> simp [hs]

/-- A text is among the first if few others are later than its last use. -/
theorem mem_take_distinct_iff {t : Text} {texts : List Text} {n : Nat} :
    t ∈ (distinct texts).take n ↔
      t ∈ texts ∧ (texts.takeWhile (· != t)).toFinset.card < n := by
  by_cases ht : t ∈ texts
  · obtain ⟨before, after, hsplit, hset⟩ := exists_distinct_split ht
    have hnodup : (before ++ t :: after).Nodup := hsplit ▸ nodup_distinct texts
    have hbefore : t ∉ before := fun hm =>
      (List.nodup_append.mp hnodup).2.2 t hm t List.mem_cons_self rfl
    have hcard : (texts.takeWhile (· != t)).toFinset.card = before.length := by
      rw [← hset, List.toFinset_card_of_nodup (List.nodup_append.mp hnodup).1]
    rw [hsplit, hcard, and_iff_right ht, List.take_append, List.mem_append]
    constructor
    · rintro (hm | hm)
      · exact absurd (List.mem_of_mem_take hm) hbefore
      · by_contra hle
        rw [Nat.sub_eq_zero_of_le (Nat.le_of_not_lt hle), List.take_zero] at hm
        cases hm
    · intro hlt
      obtain ⟨k, hk⟩ := Nat.exists_eq_succ_of_ne_zero (Nat.sub_ne_zero_of_lt hlt)
      rw [hk, List.take_succ_cons]
      exact Or.inr List.mem_cons_self
  · exact ⟨fun h => absurd (mem_distinct.mp (List.mem_of_mem_take h)) ht, fun h => absurd h.1 ht⟩

/-! ## Calls -/

def after (cache : Cache) : Call → Cache
  | .parse source => (cache.parse source).2
  | .clear => cache.clear

/-- The cache after calls, which found it empty. -/
def afterAll (calls : List Call) : Cache := calls.foldl after {}

/-- The texts that were parsed since the last clearing, the latest first. -/
def recent (calls : List Call) : List Text :=
  calls.foldl (fun texts call => match call with
    | .parse source => source.spelling :: texts
    | .clear => []) []

/-- A text was parsed since the last clearing, and fewer different texts than can be kept were
parsed after that. -/
def Kept (calls : List Call) (t : Text) : Prop :=
  t ∈ recent calls ∧ ((recent calls).takeWhile (· != t)).toFinset.card < capacity

theorem recent_parses (sources : List Source) :
    recent (sources.map .parse) = (sources.map Source.spelling).reverse := by
  induction sources using List.reverseRecOn with
  | nil => rfl
  | append_singleton sources source ih =>
    rw [List.map_append, List.map_append, List.reverse_append, ← ih, recent, List.foldl_append]
    rfl

/-- Only the texts that are later than the last use of a text count. -/
theorem kept_iff_of_split {calls : List Call} {t : Text} {later earlier : List Text}
    (h : recent calls = later ++ t :: earlier) (ht : t ∉ later) :
    Kept calls t ↔ later.toFinset.card < capacity := by
  have hlater : (recent calls).takeWhile (· != t) = later := by
    have hall : ∀ s ∈ later, (s != t) = true := fun s hs => by
      simpa using fun he : s = t => ht (he ▸ hs)
    rw [h, List.takeWhile_append_of_pos hall, List.takeWhile_cons_of_neg (by simp),
      List.append_nil]
  rw [Kept, hlater, h]
  exact and_iff_right (List.mem_append_right _ List.mem_cons_self)

/-- One of the calls gave a tree. -/
def Given (calls : List Call) (tree : CachedTree) : Prop :=
  ∃ before source later, calls = before ++ .parse source :: later ∧
    ((afterAll before).parse source).1 = .ok tree

def texts (cache : Cache) : List Text := cache.trees.map CachedTree.markup

theorem afterAll_concat (calls : List Call) (call : Call) :
    afterAll (calls ++ [call]) = (afterAll calls).after call := List.foldl_concat ..

theorem recent_parse (calls : List Call) (source : Source) :
    recent (calls ++ [.parse source]) = source.spelling :: recent calls := List.foldl_concat ..

theorem recent_clear (calls : List Call) : recent (calls ++ [.clear]) = [] :=
  List.foldl_concat ..

theorem Given.mono {calls : List Call} {tree : CachedTree} (h : Given calls tree)
    (later : List Call) : Given (calls ++ later) tree := by
  obtain ⟨before, source, between, rfl, hgave⟩ := h
  exact ⟨before, source, between ++ later, by simp, hgave⟩

/-- What was given by some calls and one more. -/
theorem given_concat {calls : List Call} {call : Call} {tree : CachedTree}
    (h : Given (calls ++ [call]) tree) :
    Given calls tree ∨
      ∃ source, call = .parse source ∧ ((afterAll calls).parse source).1 = .ok tree := by
  obtain ⟨before, source, later, hsplit, hgave⟩ := h
  rcases List.eq_nil_or_concat later with rfl | ⟨front, last, rfl⟩
  · obtain ⟨rfl, hlast⟩ := List.append_inj' hsplit rfl
    exact Or.inr ⟨source, List.singleton_inj.mp hlast, hgave⟩
  · refine Or.inl ⟨before, source, front, ?_, hgave⟩
    have hsplit' : calls ++ [call] = (before ++ .parse source :: front) ++ [last] := by
      rw [hsplit]
      simp
    exact (List.append_inj' hsplit' rfl).1

/-! ## One call -/

section
variable {cache : Cache} {source : Source}

/-- A text that is kept is given its tree, which is the latest then. -/
theorem parse_of_mem (h : source.spelling ∈ cache.texts) :
    ∃ tree ∈ cache.trees, tree.markup = source.spelling ∧
      cache.parse source = (.ok tree,
        { cache with
          trees := tree :: cache.trees.eraseP (·.markup == source.spelling)
          hits := cache.hits + 1 }) := by
  obtain ⟨kept, hkept, hmarkup⟩ := List.mem_map.mp h
  cases hfind : cache.trees.find? (·.markup == source.spelling) with
  | none =>
    have hno := List.find?_eq_none.mp hfind kept hkept
    exact absurd (beq_iff_eq.mpr hmarkup) hno
  | some tree =>
    have hp := List.find?_some hfind
    refine ⟨tree, List.mem_of_find?_eq_some hfind, beq_iff_eq.mp hp, ?_⟩
    rw [parse, hfind]

/-- For another text a tree is built. -/
theorem parse_of_notMem {nodes : List Node} (h : source.spelling ∉ cache.texts)
    (hparse : Markup.parse source.spelling = .ok nodes) :
    cache.parse source = (.ok ⟨source.spelling, cache.built, nodes⟩,
      { cache with
        trees := (⟨source.spelling, cache.built, nodes⟩ :: cache.trees).take capacity
        misses := cache.misses + 1
        built := cache.built + 1 }) := by
  have hfind : cache.trees.find? (·.markup == source.spelling) = none := by
    refine List.find?_eq_none.mpr fun tree htree hmarkup => ?_
    exact h (List.mem_map.mpr ⟨tree, htree, beq_iff_eq.mp hmarkup⟩)
  rw [parse, hfind]
  simp only [hparse]

/-- A text that is parsed becomes the latest of the kept ones. -/
theorem texts_parse (haccepted : source.Accepted) (hnodup : cache.texts.Nodup)
    (hroom : cache.texts.length ≤ capacity) :
    (cache.parse source).2.texts =
      (promote source.spelling cache.texts).take capacity := by
  by_cases h : source.spelling ∈ cache.texts
  · obtain ⟨tree, _, hmarkup, hparse⟩ := parse_of_mem h
    have herase : (cache.trees.eraseP (·.markup == source.spelling)).map CachedTree.markup =
        cache.texts.filter (· != source.spelling) := by
      rw [← hnodup.erase_eq_filter, List.erase_eq_eraseP', texts, List.eraseP_map]
      rfl
    rw [hparse, texts, List.map_cons, herase, hmarkup, promote, List.take_of_length_le]
    rw [List.length_cons, ← hnodup.erase_eq_filter, List.length_erase_of_mem h]
    have hpos := List.length_pos_of_mem h
    omega
  · obtain ⟨nodes, hparse⟩ := haccepted
    have hall : cache.texts.filter (· != source.spelling) = cache.texts := by
      refine List.filter_eq_self.mpr fun t ht => ?_
      simpa using fun he : t = source.spelling => h (he ▸ ht)
    rw [parse_of_notMem h hparse, promote, hall, texts, List.map_take]
    rfl

variable (cache) in
/-- The call is a hit: a kept tree is given. -/
structure Hit (source : Source) (tree : CachedTree) : Prop where
  mem : source.spelling ∈ cache.texts
  kept : tree ∈ cache.trees
  hits : (cache.parse source).2.hits = cache.hits + 1
  misses : (cache.parse source).2.misses = cache.misses
  built : (cache.parse source).2.built = cache.built

variable (cache) in
/-- The call is a miss: a tree is built, which bears the next number. -/
structure Miss (source : Source) (tree : CachedTree) : Prop where
  notMem : source.spelling ∉ cache.texts
  number : tree.number = cache.built
  nodes : Markup.parse source.spelling = .ok tree.nodes
  hits : (cache.parse source).2.hits = cache.hits
  misses : (cache.parse source).2.misses = cache.misses + 1
  built : (cache.parse source).2.built = cache.built + 1

variable (cache) in
/-- What a call gives, and that nothing else comes to the kept trees. -/
theorem parse_cases (haccepted : source.Accepted) :
    ∃ tree, (cache.parse source).1 = .ok tree ∧ tree.markup = source.spelling ∧
      (∀ kept ∈ (cache.parse source).2.trees, kept = tree ∨ kept ∈ cache.trees) ∧
      (cache.Hit source tree ∨ cache.Miss source tree) := by
  by_cases h : source.spelling ∈ cache.texts
  · obtain ⟨tree, htree, hmarkup, hparse⟩ := parse_of_mem h
    refine ⟨tree, by rw [hparse], hmarkup, ?_, Or.inl ⟨h, htree, ?_, ?_, ?_⟩⟩
    · rw [hparse]
      exact fun kept hkept => (List.mem_cons.mp hkept).imp id List.mem_of_mem_eraseP
    all_goals rw [hparse]
  · obtain ⟨nodes, hnodes⟩ := haccepted
    have hparse := parse_of_notMem h hnodes
    refine ⟨_, by rw [hparse], rfl, ?_, Or.inr ⟨h, rfl, hnodes, ?_, ?_, ?_⟩⟩
    · rw [hparse]
      exact fun kept hkept => List.mem_cons.mp (List.mem_of_mem_take hkept)
    all_goals rw [hparse]

end

/-! ## All calls -/

/-- What holds of a cache after calls. -/
structure Faithful (calls : List Call) (cache : Cache) : Prop where
  texts : cache.texts = (distinct (recent calls)).take capacity
  parsed : ∀ tree ∈ cache.trees, Markup.parse tree.markup = .ok tree.nodes
  given : ∀ tree ∈ cache.trees, Given calls tree
  numbered : ∀ tree, Given calls tree → tree.number < cache.built
  counted : cache.hits + cache.misses = (recent calls).length

namespace Faithful

variable {calls : List Call} {cache : Cache} {source : Source}

theorem nodup (h : Faithful calls cache) : cache.texts.Nodup := by
  rw [h.texts]
  exact (nodup_distinct _).sublist (List.take_sublist _ _)

theorem length_le (h : Faithful calls cache) : cache.texts.length ≤ capacity := by
  rw [h.texts]
  exact List.length_take_le _ _

theorem mem_texts_iff (h : Faithful calls cache) (t : Text) : t ∈ cache.texts ↔ Kept calls t := by
  rw [h.texts]
  exact mem_take_distinct_iff

theorem empty : Faithful [] {} where
  texts := rfl
  parsed := by simp
  given := by simp
  numbered := by
    rintro tree ⟨before, source, later, hsplit, _⟩
    simp at hsplit
  counted := rfl

theorem parse (h : Faithful calls (afterAll calls)) (haccepted : source.Accepted) :
    Faithful (calls ++ [.parse source]) (afterAll (calls ++ [.parse source])) := by
  obtain ⟨tree, hgave, hmarkup, honly, hcases⟩ := parse_cases (afterAll calls) haccepted
  have hgiven : Given (calls ++ [.parse source]) tree := ⟨calls, source, [], rfl, hgave⟩
  rw [afterAll_concat]
  refine ⟨?_, ?_, ?_, ?_, ?_⟩
  · show ((afterAll calls).parse source).2.texts = _
    rw [texts_parse haccepted h.nodup h.length_le, h.texts, recent_parse, distinct,
      take_promote _ (nodup_distinct _)]
  · intro kept hkept
    rcases honly kept hkept with rfl | hold
    · rcases hcases with hhit | hmiss
      · exact h.parsed kept hhit.kept
      · rw [hmarkup, hmiss.nodes]
    · exact h.parsed kept hold
  · intro kept hkept
    rcases honly kept hkept with rfl | hold
    · exact hgiven
    · exact (h.given kept hold).mono _
  · intro other hother
    rcases given_concat hother with hbefore | ⟨source', hsource, hgave'⟩
    · have hlt := h.numbered other hbefore
      rcases hcases with hhit | hmiss
      · exact hhit.built ▸ hlt
      · exact hmiss.built ▸ Nat.lt_succ_of_lt hlt
    · cases hsource
      obtain rfl : tree = other := Except.ok.inj (hgave.symm.trans hgave')
      rcases hcases with hhit | hmiss
      · exact hhit.built ▸ h.numbered tree (h.given tree hhit.kept)
      · exact hmiss.built ▸ hmiss.number ▸ Nat.lt_succ_self _
  · show ((afterAll calls).parse source).2.hits + ((afterAll calls).parse source).2.misses = _
    rw [recent_parse, List.length_cons, ← h.counted]
    rcases hcases with hhit | hmiss
    · rw [hhit.hits, hhit.misses]
      omega
    · rw [hmiss.hits, hmiss.misses]
      omega

theorem clear (h : Faithful calls (afterAll calls)) :
    Faithful (calls ++ [.clear]) (afterAll (calls ++ [.clear])) := by
  rw [afterAll_concat]
  refine ⟨?_, ?_, ?_, ?_, ?_⟩
  · rw [recent_clear]
    rfl
  · intro tree htree
    cases htree
  · intro tree htree
    cases htree
  · intro tree htree
    rcases given_concat htree with hbefore | ⟨source, hsource, _⟩
    · exact h.numbered tree hbefore
    · cases hsource
  · rw [recent_clear]
    rfl

end Faithful

/-- All texts that calls parse are accepted. -/
def AllAccepted (calls : List Call) : Prop := ∀ source, .parse source ∈ calls → source.Accepted

theorem faithful_afterAll {calls : List Call} (h : AllAccepted calls) :
    Faithful calls (afterAll calls) := by
  induction calls using List.reverseRecOn with
  | nil => exact .empty
  | append_singleton calls call ih =>
    have ih := ih fun source hs => h source (List.mem_append_left _ hs)
    cases call with
    | parse source => exact ih.parse (h source (by simp))
    | clear => exact ih.clear

/-- **The cache is transparent and keeps what was used last.** After any calls, at most as many
trees are kept as it may hold, of different texts, and every call since the last clearing was a
hit or a miss. The next call gives the tree that parsing gives. It is a hit if and only if the
text was parsed since the last clearing and fewer different texts than can be kept were parsed
after that; then the tree is one that was given before. Otherwise it is a miss, and the tree is
none of those that were given before. -/
theorem keeps_latest {calls : List Call} (h : AllAccepted calls) :
    (afterAll calls).trees.length ≤ capacity ∧ (afterAll calls).texts.Nodup ∧
      (afterAll calls).hits + (afterAll calls).misses = (recent calls).length ∧
      ∀ source : Source, source.Accepted →
        ∃ tree, ((afterAll calls).parse source).1 = .ok tree ∧
          Markup.parse source.spelling = .ok tree.nodes ∧
          (((afterAll calls).parse source).2.hits = (afterAll calls).hits + 1 ↔
            Kept calls source.spelling) ∧
          (Kept calls source.spelling → tree.markup = source.spelling ∧ Given calls tree) ∧
          (¬ Kept calls source.spelling →
            ((afterAll calls).parse source).2.misses = (afterAll calls).misses + 1 ∧
              ∀ earlier, Given calls earlier → earlier.number ≠ tree.number) := by
  have hfaithful := faithful_afterAll h
  refine ⟨?_, hfaithful.nodup, hfaithful.counted, ?_⟩
  · have hlength := hfaithful.length_le
    rwa [texts, List.length_map] at hlength
  · intro source haccepted
    obtain ⟨tree, hgave, hmarkup, _, hcases⟩ := parse_cases (afterAll calls) haccepted
    rcases hcases with hhit | hmiss
    · have hkept := (hfaithful.mem_texts_iff _).mp hhit.mem
      have hparsed := hfaithful.parsed tree hhit.kept
      rw [hmarkup] at hparsed
      exact ⟨tree, hgave, hparsed, iff_of_true hhit.hits hkept,
        fun _ => ⟨hmarkup, hfaithful.given tree hhit.kept⟩, fun hnot => absurd hkept hnot⟩
    · have hnot : ¬ Kept calls source.spelling :=
        fun hkept => hmiss.notMem ((hfaithful.mem_texts_iff _).mpr hkept)
      refine ⟨tree, hgave, hmiss.nodes, iff_of_false ?_ hnot, fun hkept => absurd hkept hnot,
        fun _ => ⟨hmiss.misses, ?_⟩⟩
      · rw [hmiss.hits]
        omega
      · intro earlier hgiven
        have hlt := hfaithful.numbered earlier hgiven
        rw [hmiss.number]
        omega

/-- A text is parsed before a clearing and after it, and then another way to spell it. -/
def spelledTwice : List Call :=
  [.parse (.text "<b/>"), .parse (.text "None"), .clear, .parse .absent, .parse (.text "<b/>")]

/-- As many texts as can be kept. -/
def sheets : List Text := (List.range capacity).map fun n => List.replicate n (.char 'a')

/-- A text, and after it as many others as can be kept. -/
def crowded : List Call := (.text "<b/>" :: sheets.map Source.text).map .parse

theorem nodup_sheets : sheets.Nodup := by
  have hinjective : Function.Injective fun n => List.replicate n (CodePoint.char 'a') :=
    fun m n h => by simpa using congrArg List.length h
  exact List.nodup_range.map hinjective

theorem length_sheets : sheets.length = capacity := by
  rw [sheets, List.length_map, List.length_range]

theorem recent_crowded : recent crowded = sheets.reverse ++ [Text.ofString "<b/>"] := by
  have hspelled : (sheets.map Source.text).map Source.spelling = sheets := by
    rw [List.map_map]
    exact List.map_id sheets
  rw [crowded, recent_parses, List.map_cons, hspelled, List.reverse_cons]
  rfl

/-- The first text has been given up for the others. -/
theorem not_kept_crowded : ¬ Kept crowded "<b/>" := by
  have hcount := List.toFinset_card_of_nodup (List.nodup_reverse.mpr nodup_sheets)
  rw [kept_iff_of_split recent_crowded (by decide +kernel), hcount, List.length_reverse,
    length_sheets]
  exact Nat.lt_irrefl _

/-- Of the others even the one that was used longest ago is kept. -/
theorem kept_crowded : Kept crowded [] := by
  obtain ⟨others, hothers⟩ : ∃ others, sheets = [] :: others := ⟨_, rfl⟩
  have hsplit : recent crowded = others.reverse ++ [] :: [Text.ofString "<b/>"] := by
    rw [recent_crowded, hothers, List.reverse_cons, List.append_assoc, List.singleton_append]
  obtain ⟨hnew, _⟩ := List.nodup_cons.mp (hothers ▸ nodup_sheets)
  rw [kept_iff_of_split hsplit (mt List.mem_reverse.mp hnew)]
  calc others.reverse.toFinset.card ≤ others.length :=
        List.length_reverse ▸ List.toFinset_card_le others.reverse
    _ < sheets.length := hothers ▸ Nat.lt_succ_self _
    _ = capacity := length_sheets

theorem keeps_spelledTwice :
    AllAccepted spelledTwice ∧
      (∃ tree, ((afterAll spelledTwice).parse (.text "None")).1 = .ok tree ∧
        Given spelledTwice tree) ∧
      (∃ tree, ((afterAll (spelledTwice.take 3)).parse .absent).1 = .ok tree ∧
        ∀ earlier, Given (spelledTwice.take 3) earlier → earlier.number ≠ tree.number) ∧
      AllAccepted crowded ∧
      (∃ tree, ((afterAll crowded).parse (.text [])).1 = .ok tree ∧ Given crowded tree) ∧
      ∃ tree, ((afterAll crowded).parse (.text "<b/>")).1 = .ok tree ∧
        ∀ earlier, Given crowded earlier → earlier.number ≠ tree.number := by
  have haccepted : ∀ calls : List Call, (∀ call ∈ calls, (match call with
      | .parse source => (Markup.parse source.spelling).isOk
      | .clear => true) = true) → AllAccepted calls :=
    fun calls hall source hs => accepted_of_isOk (hall _ hs)
  have htwice : AllAccepted spelledTwice := haccepted _ (by decide +kernel)
  have hbefore : AllAccepted (spelledTwice.take 3) := fun source hs =>
    htwice source (List.mem_of_mem_take hs)
  have hcrowded : AllAccepted crowded := haccepted _ (by decide +kernel)
  obtain ⟨_, _, _, hcalls⟩ := keeps_latest htwice
  obtain ⟨_, _, _, hcallsBefore⟩ := keeps_latest hbefore
  obtain ⟨_, _, _, hcallsCrowded⟩ := keeps_latest hcrowded
  obtain ⟨tree, hgave, _, _, hkept, _⟩ := hcalls (.text "None") (htwice _ (by decide +kernel))
  obtain ⟨other, hgave', _, _, _, hnot⟩ := hcallsBefore .absent (htwice _ (by decide +kernel))
  obtain ⟨last, hlast, _, _, hlastKept, _⟩ :=
    hcallsCrowded (.text []) (hcrowded _ (by decide +kernel))
  obtain ⟨first, hfirst, _, _, _, hfirstNot⟩ :=
    hcallsCrowded (.text "<b/>") (hcrowded _ (by decide +kernel))
  refine ⟨htwice, ⟨tree, hgave, (hkept ?_).2⟩, ⟨other, hgave', (hnot ?_).2⟩, hcrowded,
    ⟨last, hlast, (hlastKept kept_crowded).2⟩, first, hfirst, (hfirstNot not_kept_crowded).2⟩
  · unfold Kept
    decide +kernel
  · unfold Kept
    decide +kernel

end Cache

end FlatBlocks.Markup
