import FlatBlocks.Markup.Tree

/-! A cache of parsed trees. It keeps the trees of the texts that were parsed
last, up to a bound; a text that is parsed again gives the tree that was built
before. Trees are numbered as they are built, so that one can tell a kept tree
from an equal one that was built anew. -/

namespace FlatBlocks.Markup

/-- What may be given as markup. All but text is parsed as it is spelled. -/
inductive Source where
  | text (markup : Text)
  | absent
  | flag (value : Bool)
  | number (value : Int)
  deriving DecidableEq, Repr

def Source.spelling : Source → Text
  | text markup => markup
  | absent => "None"
  | flag true => "True"
  | flag false => "False"
  | number n => toString n

structure CachedTree where
  markup : Text
  number : Nat
  nodes : List Node

/-- The kept trees, the one used last first, and counts since the last clearing.
The number of trees `built` is never reset. -/
structure Cache where
  trees : List CachedTree := []
  hits : Nat := 0
  misses : Nat := 0
  built : Nat := 0

namespace Cache

/-- The number of trees that are kept. -/
def capacity : Nat := 200

def parse (cache : Cache) (source : Source) : Except Rejection CachedTree × Cache :=
  let markup := source.spelling
  match cache.trees.find? (·.markup == markup) with
  | some tree =>
    (.ok tree,
      { cache with
        trees := tree :: cache.trees.eraseP (·.markup == markup)
        hits := cache.hits + 1 })
  | none =>
    match Markup.parse markup with
    | .error cause => (.error cause, { cache with misses := cache.misses + 1 })
    | .ok nodes =>
      let tree := ⟨markup, cache.built, nodes⟩
      (.ok tree,
        { cache with
          trees := (tree :: cache.trees).take capacity
          misses := cache.misses + 1
          built := cache.built + 1 })

def clear (cache : Cache) : Cache := { built := cache.built }

end Cache

end FlatBlocks.Markup
