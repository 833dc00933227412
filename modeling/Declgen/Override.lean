import Declgen.Digest
import Declgen.Json.Skip
import Declgen.Model.Node

/-!
# Overrides

A hook may answer a node with a type from elsewhere. Rules are the hook of a document: a rule for the
qualified name of a node wins over a rule for its kind.
-/

namespace Declgen

/-- A type that is not generated. Without a path its name is in scope already. -/
structure ExternalType where
  path : String
  name : String
deriving DecidableEq

abbrev Hook := Node → Option ExternalType

/-- The hook that declines every node. -/
def Hook.none : Hook := fun _ => Option.none

/-- The name under which a path is imported: seven digits of its digest tell paths apart. -/
def importAlias (path : String) : String := "external_" ++ Digest.short path 7

/-- Rules by qualified name and by kind. -/
structure Rules where
  types : List (String × ExternalType)
  kinds : List (String × ExternalType)

namespace Rules

def empty : Rules := ⟨[], []⟩

def isEmpty (r : Rules) : Bool := r.types.isEmpty && r.kinds.isEmpty

def resolve (r : Rules) : Hook := fun node =>
  (node.qualifiedName?.bind fun name => r.types.lookup name).or (r.kinds.lookup node.kind.name)

/-! ## Reading -/

open Json (Fault Reader)

/-- A field that is met for the first time, from the colon on. -/
def fill {α : Type} (slot : Option α) (name : String) (value : Reader α) : Reader (Option α) := fun cs =>
  if slot.isSome then .error (.duplicateField name)
  else do
    let (a, rest) ← Json.afterColon value cs
    .ok (some a, rest)

def textValue : Reader String := Json.stringValue "a string"

def externalMember (s : Option String × Option String) (key : String) :
    Reader (Option String × Option String) := fun cs =>
  match key with
  | "path" => do
    let (path, rest) ← fill s.1 "path" textValue cs
    .ok ((path, s.2), rest)
  | "name" => do
    let (name, rest) ← fill s.2 "name" textValue cs
    .ok ((s.1, name), rest)
  | _ => do
    let (_, rest) ← Json.afterColon Json.skip cs
    .ok (s, rest)

/-- The end of a list whose items have all been taken. -/
def listEnd : Reader Unit := fun cs =>
  match Json.skipBlanks cs with
  | ']' :: rest => .ok ((), rest)
  | [] => .error (.ended .list)
  | ',' :: rest =>
    match Json.skipBlanks rest with
    | ']' :: _ => .error .trailingComma
    | _ => .error .trailingCharacters
  | _ => .error .trailingCharacters

/-- The next item of a list, if there is one. -/
def item? {α : Type} (first : Bool) (value : Reader α) : Reader (Option α) := fun cs => do
  match ← Json.nextItem first cs with
  | none => .ok (none, cs)
  | some cs =>
    let (a, rest) ← value cs
    .ok (some a, rest)

/-- A type, by named fields or as path and name. -/
def external (nesting : Nat) : Reader ExternalType := fun cs =>
  match Json.skipBlanks cs with
  | '{' :: rest =>
    if nesting = 0 then .error .recursionLimit
    else do
      let ((path, name), rest) ← Json.members externalMember (none, none) rest
      match name with
      | some name => .ok (⟨path.getD "", name⟩, rest)
      | none => .error (.missingField "name")
  | '[' :: rest =>
    if nesting = 0 then .error .recursionLimit
    else do
      let (path, rest) ← item? true textValue rest
      let (name, rest) ← item? path.isNone textValue rest
      match name with
      | some name => do
        let (_, rest) ← listEnd rest
        .ok (⟨path.getD "", name⟩, rest)
      | none => .error (.invalidLength 1 "struct ExternalType with 2 elements")
  | cs => Json.mismatch "struct ExternalType" cs

/-- Sets the type of a key; the last one counts. -/
def put (rules : List (String × ExternalType)) (key : String) (type : ExternalType) :
    List (String × ExternalType) :=
  match rules with
  | [] => [(key, type)]
  | rule :: rest => if rule.1 == key then (key, type) :: rest else rule :: put rest key type

/-- Rules by key. -/
def table (nesting : Nat) : Reader (List (String × ExternalType)) := fun cs =>
  match Json.skipBlanks cs with
  | '{' :: rest =>
    match nesting with
    | 0 => .error .recursionLimit
    | n + 1 => Json.members (fun rules key cs => do
        let (type, rest) ← Json.afterColon (external n) cs
        .ok (put rules key type, rest)) [] rest
  | cs => Json.mismatch "a map" cs

abbrev Tables := Option (List (String × ExternalType)) × Option (List (String × ExternalType))

def section_ (nesting : Nat) (s : Tables) (key : String) : Reader Tables := fun cs =>
  match key with
  | "types" => do
    let (types, rest) ← fill s.1 "types" (table nesting) cs
    .ok ((types, s.2), rest)
  | "kinds" => do
    let (kinds, rest) ← fill s.2 "kinds" (table nesting) cs
    .ok ((s.1, kinds), rest)
  | _ => .error (.unknownField key ["types", "kinds"])

def ofTables (s : Tables) : Rules := ⟨s.1.getD [], s.2.getD []⟩

/-- Rules, by named sections or as the two sections in order. -/
def read (nesting : Nat) : Reader Rules := fun cs =>
  match Json.skipBlanks cs with
  | '{' :: rest =>
    match nesting with
    | 0 => .error .recursionLimit
    | n + 1 => do
      let (s, rest) ← Json.members (section_ n) (none, none) rest
      .ok (ofTables s, rest)
  | '[' :: rest =>
    match nesting with
    | 0 => .error .recursionLimit
    | n + 1 => do
      let (types, rest) ← item? true (table n) rest
      let (kinds, rest) ← item? types.isNone (table n) rest
      let (_, rest) ← listEnd rest
      .ok (ofTables (types, kinds), rest)
  | cs => Json.mismatch "struct OverrideRules" cs

def parse (text : String) : Except Fault Rules := Json.whole (read Json.nestingLimit) text

end Rules

end Declgen
