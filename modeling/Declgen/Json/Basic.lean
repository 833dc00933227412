import Declgen.Number.Basic

/-!
# JSON values

A value keeps the members of an object in order, repeated keys included.
-/

namespace Declgen

inductive Json where
  | null
  | bool (value : Bool)
  | num (value : Number)
  | str (value : String)
  | arr (items : List Json)
  | obj (members : List (String × Json))

namespace Json

/-! ## Nesting -/

mutual
/-- How many arrays and objects stand inside each other, at the deepest place. -/
def depth : Json → Nat
  | .arr items => depthOfItems items + 1
  | .obj members => depthOfMembers members + 1
  | _ => 0

def depthOfItems : List Json → Nat
  | [] => 0
  | v :: rest => max (depth v) (depthOfItems rest)

def depthOfMembers : List (String × Json) → Nat
  | [] => 0
  | m :: rest => max (depth m.2) (depthOfMembers rest)
end

/-- The value of the last member with a key. -/
def lookup? (members : List (String × Json)) (key : String) : Option Json :=
  (members.reverse.find? fun m => m.1 == key).map (·.2)

end Json

end Declgen
