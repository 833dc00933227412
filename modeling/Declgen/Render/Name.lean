import Declgen.Render.Fault
import Declgen.Source.Lexer
import Declgen.Text.SnakeCase

/-!
# Names in a file

Identifiers of what is generated, text from outside, and the identifiers of the fields of a struct, which are
made distinct by counting.
-/

namespace Declgen.Render

open Source (Token)

/-- The token of a name, if it can be one. -/
def identifier (name : String) (role : Role) : Except RenderFault Token :=
  if Source.isIdentifier name then .ok (.identifier name) else .error (.invalidIdentifier name role)

/-- The tokens of a text from outside. -/
def outside (text : String) : Except RenderFault (List Token) :=
  match Source.tokens? text with
  | some ts => .ok ts
  | none => .error (.untokenizable text)

/-! ## Fields -/

/-- What the identifier of a field is made from: the name in snake case, or the name if nothing is left. -/
def fieldBase (raw : String) : String :=
  let snake := Text.snakeCase raw
  if snake.isEmpty then raw else snake

/-- The `n`-th candidate for a base, counted from one. -/
def fieldCandidate (base : String) (n : Nat) : String :=
  if n = 1 then base else base ++ "_" ++ toString n

/-- The first candidate from the `n`-th on that is not used. Candidates differ from each other, so as many as
there are used names are enough to look at, and one more is free. -/
def firstUnused (used : List String) (base : String) : List String → Nat → String
  | [], n => fieldCandidate base n
  | _ :: budget, n =>
    if used.contains (fieldCandidate base n) then firstUnused used base budget (n + 1)
    else fieldCandidate base n

/-- One name for each base, in order, none of them used before. -/
def uniqueNames (used : List String) : List String → List String
  | [] => []
  | base :: rest =>
    let name := firstUnused used base used 1
    name :: uniqueNames (name :: used) rest

theorem length_uniqueNames (used bases : List String) : (uniqueNames used bases).length = bases.length := by
  induction bases generalizing used with
  | nil => rfl
  | cons base rest ih => simp [uniqueNames, ih]

/-- One name for each field of a struct, in order. -/
def fieldNames (raws : List String) : List String := uniqueNames [] (raws.map fieldBase)

theorem length_fieldNames (raws : List String) : (fieldNames raws).length = raws.length := by
  simp [fieldNames, length_uniqueNames]

end Declgen.Render
