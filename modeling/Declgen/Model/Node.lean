import Declgen.Json.Basic
import Declgen.Model.Representation

/-!
# Nodes of a type model

A model maps the names of its roots to nodes. Objects, strings and numbers may carry a qualified name; a
string or a number with members is an enumeration.
-/

namespace Declgen

/-- A field of an object. -/
structure Entry (α : Type) where
  name : String
  type : α
  /-- How a serializer is told about the field, empty if nothing is said. -/
  tag : String
deriving DecidableEq

/-- A member of an enumeration. -/
structure Member (α : Type) where
  key : String
  value : α
deriving DecidableEq

inductive Node where
  | array (inner : Node)
  | map (key value : Node)
  | object (name : String) (entries : List (Entry Node))
  | string (name : String) (members : List (Member String))
  | number (name : String) (repr : Representation) (members : List (Member Number))
  | boolean
  | date
  | any
  | nullable (inner : Node)

/-- The kinds of nodes. -/
inductive Kind where
  | array | map | object | string | number | boolean | date | any | nullable
deriving DecidableEq

namespace Kind

def all : List Kind :=
  [.array, .map, .object, .string, .number, .boolean, .date, .any, .nullable]

def name : Kind → String
  | .array => "array"
  | .map => "map"
  | .object => "object"
  | .string => "string"
  | .number => "number"
  | .boolean => "boolean"
  | .date => "date"
  | .any => "any"
  | .nullable => "nullable"

def ofName? (s : String) : Option Kind := all.find? (·.name == s)

theorem ofName?_name (k : Kind) : ofName? k.name = some k := by cases k <;> decide +kernel

end Kind

namespace Node

def kind : Node → Kind
  | .array _ => .array
  | .map _ _ => .map
  | .object _ _ => .object
  | .string _ _ => .string
  | .number _ _ _ => .number
  | .boolean => .boolean
  | .date => .date
  | .any => .any
  | .nullable _ => .nullable

/-- The qualified name that a node carries, if it carries one. -/
def qualifiedName? : Node → Option String
  | .object name _ | .string name _ | .number name _ _ => if name.isEmpty then none else some name
  | _ => none

/-- Arrays and maps have an empty value of their own. -/
def isContainer : Node → Bool
  | .array _ | .map _ _ => true
  | _ => false

/-! ## Equality -/

def sameMembers {α : Type} (same : α → α → Bool) : List (Member α) → List (Member α) → Bool
  | [], [] => true
  | m :: ms, n :: ns => m.key == n.key && same m.value n.value && sameMembers same ms ns
  | _, _ => false

mutual
/-- The same declaration: order, tags and names count, and numbers are compared by value. -/
def same : Node → Node → Bool
  | .array a, .array b => same a b
  | .map k v, .map l w => same k l && same v w
  | .object m es, .object n fs => m == n && sameEntries es fs
  | .string m xs, .string n ys => m == n && sameMembers (· == ·) xs ys
  | .number m r xs, .number n s ys => m == n && r == s && sameMembers Number.same xs ys
  | .boolean, .boolean => true
  | .date, .date => true
  | .any, .any => true
  | .nullable a, .nullable b => same a b
  | _, _ => false

def sameEntries : List (Entry Node) → List (Entry Node) → Bool
  | [], [] => true
  | e :: es, f :: fs => e.name == f.name && same e.type f.type && e.tag == f.tag && sameEntries es fs
  | _, _ => false
end

/-! ## As JSON -/

def memberJson {α : Type} (value : α → Json) (m : Member α) : Json :=
  .obj [("key", .str m.key), ("value", value m.value)]

/-- The members of an enumeration; a node that is none has no such field. -/
def enumJson {α : Type} (value : α → Json) : List (Member α) → List (String × Json)
  | [] => []
  | ms => [("enum", .arr (ms.map (memberJson value)))]

mutual
/-- The interchange form: the kind first, then the fields. -/
def toJson : Node → Json
  | .array inner => .obj [("kind", .str "array"), ("inner", toJson inner)]
  | .map key value => .obj [("kind", .str "map"), ("key", toJson key), ("value", toJson value)]
  | .object name entries =>
    .obj [("kind", .str "object"), ("name", .str name), ("entries", .arr (entriesJson entries))]
  | .string name members => .obj (("kind", .str "string") :: ("name", .str name) :: enumJson .str members)
  | .number name repr members =>
    .obj (("kind", .str "number") :: ("name", .str name) :: ("repr", .str repr.name) ::
      enumJson .num members)
  | .boolean => .obj [("kind", .str "boolean")]
  | .date => .obj [("kind", .str "date")]
  | .any => .obj [("kind", .str "any")]
  | .nullable inner => .obj [("kind", .str "nullable"), ("inner", toJson inner)]

def entriesJson : List (Entry Node) → List Json
  | [] => []
  | e :: rest =>
    .obj [("name", .str e.name), ("type", toJson e.type), ("tag", .str e.tag)] :: entriesJson rest
end

end Node

/-- The roots of a model by name. -/
abbrev Model := List (String × Node)

def Model.toJson (m : Model) : Json := .obj (m.map fun root => (root.1, root.2.toJson))

end Declgen
