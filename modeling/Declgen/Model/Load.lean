import Declgen.Model.Decode
import Declgen.QualifiedName

/-!
# Loading a model

A model is an object of nodes by root name. It is accepted if every root name has an identifier after its
last dot and no object, at any depth, declares a field twice.
-/

namespace Declgen

namespace Model

/-- The node of a root. -/
def find? (m : Model) (key : String) : Option Node := m.lookup key

/-- Sets a root; a root that is there already keeps its place. -/
def insert (m : Model) (key : String) (node : Node) : Model :=
  match m with
  | [] => [(key, node)]
  | root :: rest => if root.1 == key then (key, node) :: rest else root :: insert rest key node

/-- Root names are distinct. -/
def Distinct (m : Model) : Prop := (m.map (·.1)).Nodup

/-! ## Reading -/

/-- The roots of a text. A name that is repeated has its last node. -/
def read : Nat → Json.Reader Model := fun nesting cs =>
  match Json.skipBlanks cs with
  | '{' :: rest =>
    match nesting with
    | 0 => .error .recursionLimit
    | n + 1 => Json.members (fun (m : Model) key cs => do
        let (node, rest) ← Json.afterColon (Node.read n) cs
        .ok (m.insert key node, rest)) [] rest
  | cs => Json.mismatch "a map" cs

def parse (text : String) : Except Json.Fault Model := Json.whole (read Json.nestingLimit) text

/-! ## Checking -/

inductive Flaw where
  | emptyRootName (root : String)
  | duplicateField (owner field : String)
deriving DecidableEq

end Model

mutual
/-- The first repeated field below a node. `path` names the place if no object there has a name. -/
def Node.flaw? (path : String) : Node → Option Model.Flaw
  | .array inner | .nullable inner => flaw? path inner
  | .map key value => (flaw? path key).or (flaw? path value)
  | .object name entries => flawOfEntries (if name.isEmpty then path else name) [] entries
  | .string _ _ | .number _ _ _ | .boolean | .date | .any => none

/-- The first repeated field among entries and below them, where the fields `seen` stand before. -/
def Node.flawOfEntries (owner : String) (seen : List String) : List (Entry Node) → Option Model.Flaw
  | [] => none
  | e :: rest =>
    if seen.contains e.name then some (.duplicateField owner e.name)
    else (flaw? owner e.type).or (flawOfEntries owner (e.name :: seen) rest)
end

namespace Model

def rootFlaw? (root : String × Node) : Option Flaw :=
  if (QualifiedName.bare root.1).isEmpty then some (.emptyRootName root.1) else root.2.flaw? root.1

/-- The first flaw, root by root. -/
def flaw? (m : Model) : Option Flaw := m.findSome? rootFlaw?

/-! ## Loading -/

inductive LoadError where
  | unreadable (fault : Json.Fault)
  | flawed (flaw : Flaw)
deriving DecidableEq

def load (text : String) : Except LoadError Model :=
  match parse text with
  | .error fault => .error (.unreadable fault)
  | .ok m =>
    match m.flaw? with
    | some flaw => .error (.flawed flaw)
    | none => .ok m

def Flaw.message : Flaw → String
  | .emptyRootName root => "root declaration name " ++ Text.quote root ++ " has no identifier"
  | .duplicateField owner field =>
    "object " ++ Text.quote owner ++ " declares field " ++ Text.quote field ++ " more than once"

def LoadError.message : LoadError → String
  | .unreadable fault => "invalid type model JSON: " ++ fault.message
  | .flawed flaw => flaw.message

end Model

end Declgen
