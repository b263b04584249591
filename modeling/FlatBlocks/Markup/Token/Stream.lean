import FlatBlocks.Markup.Token.Progress

/-! The tokens of a whole text. -/

namespace FlatBlocks.Markup.Token

/-- How far a pass came: the tokens found, last one first, the element whose raw
content is open, and the text that is left. -/
structure Pass where
  found : List Token
  raw : Option RawElement
  rest : Text

/-- Step on until a step stops. -/
def scan (final : Bool) (found : List Token) (raw : Option RawElement) (s : Text) :
    Except Rejection Pass :=
  match _h : step final raw s with
  | .more tokens raw' rest => scan final (tokens.reverse ++ found) raw' rest
  | .stop tokens rest => .ok ⟨tokens.reverse ++ found, raw, rest⟩
  | .reject cause => .error cause
termination_by s.length
decreasing_by exact step_length _h

/-- What the second pass leaves is one more piece of text, except in raw content,
where it is lost. -/
def ofText (s : Text) : Except Rejection (List Token) := do
  let first ← scan false [] none s
  let last ← scan true first.found first.raw first.rest
  if last.rest.isEmpty || last.raw.isSome then .ok last.found.reverse
  else .ok (.text last.rest :: last.found).reverse

end FlatBlocks.Markup.Token
