import Declgen.Json.Reader
import Declgen.Model.Node

/-!
# Nodes from JSON

A node is an object with a `kind` among its members, or a list that starts with the kind. Of several faults
the first in document order is reported: the kind of a node comes before its fields, and a missing field is
noticed last. Unknown members are passed over.
-/

namespace Declgen.Node

open Json (Fault Found found)

abbrev Decoded (α : Type) := Except Fault α

/-! ## Scalars -/

def textOf : Json → Decoded String
  | .str s => .ok s
  | v => .error (.invalidType (found v) "a string")

def numberOf : Json → Decoded Number
  | .num n => .ok n
  | v => .error (.invalidType (found v) "a JSON number")

def listOf {α : Type} (item : Json → Decoded α) : Json → Decoded (List α)
  | .arr vs => vs.mapM item
  | v => .error (.invalidType (found v) "a sequence")

def reprNamed (name : String) : Decoded Representation :=
  match Representation.ofName? name with
  | some r => .ok r
  | none => .error (.unknownVariant name (Representation.all.map Representation.name))

/-- A representation is a name, or an object with the name as its one key and nothing as its value. Inside a
model an object without members is nothing too. -/
def reprOf (inModel : Bool) : Json → Decoded Representation
  | .str s => reprNamed s
  | .obj [(name, v)] => do
    let r ← reprNamed name
    match v with
    | .null => .ok r
    | .obj [] => if inModel then .ok r else .error (.invalidType .map "unit")
    | v => .error (.invalidType (found v) "unit")
  | .obj _ => .error (.invalidValue .map "map with a single key")
  | v => .error (.invalidType (found v) "string or map")

/-! ## Kinds -/

def kindNamed (name : String) : Decoded Kind :=
  match Kind.ofName? name with
  | some k => .ok k
  | none => .error (.unknownVariant name (Kind.all.map Kind.name))

def notAKind {α : Type} (v : Json) : Decoded α := .error (.invalidType (found v) "variant identifier")

/-- The kind of an inner node, by name or by position. -/
def kindOf : Json → Decoded Kind
  | .str s => kindNamed s
  | .num (.int n) =>
    if n < 0 then notAKind (.num (.int n))
    else
      match Kind.all[n.toNat]? with
      | some k => .ok k
      | none => .error (.invalidValue (.num (.int n)) "variant index 0 <= i < 9")
  | v => notAKind v

/-- The kind among the members of an object. -/
def kindAmong : Option Kind → List (String × Json) → Decoded Kind
  | some k, [] => .ok k
  | none, [] => .error (.missingField "kind")
  | k?, (key, v) :: rest =>
    if key = "kind" then
      if k?.isSome then .error (.duplicateField "kind")
      else do
        let k ← kindOf v
        kindAmong (some k) rest
    else kindAmong k? rest

/-! ## Fields -/

/-- The fields of a record: by name, or in order of declaration. -/
inductive Body where
  | named (members : List (String × Json))
  | listed (items : List Json)

/-- Fills a field that is met for the first time. -/
def fill {α : Type} (slot : Option α) (name : String) (value : Decoded α) : Decoded (Option α) :=
  if slot.isSome then .error (.duplicateField name) else some <$> value

def required {α : Type} (name : String) : Option α → Decoded α
  | some a => .ok a
  | none => .error (.missingField name)

/-- The next item, the one at `index` of a record that `expected` describes. -/
def nextOf {α : Type} (index : Nat) (expected : String) (value : Json → Decoded α) :
    List Json → Decoded (α × List Json)
  | [] => .error (.invalidLength index expected)
  | v :: rest => do
    let a ← value v
    .ok (a, rest)

/-- The next item, or a value that stands for it. -/
def nextOr {α : Type} (default : α) (value : Json → Decoded α) : List Json → Decoded (α × List Json)
  | [] => .ok (default, [])
  | v :: rest => do
    let a ← value v
    .ok (a, rest)

def elements (n : Nat) : String := toString n ++ if n = 1 then " element" else " elements"

/-- No more items than the `count` fields. -/
def noMore (count : Nat) : List Json → Decoded Unit
  | [] => .ok ()
  | rest => .error (.invalidLength (count + rest.length) (elements count ++ " in sequence"))

/-! ## Records -/

def memberOf {α : Type} (value : Json → Decoded α) : Json → Decoded (Member α)
  | .obj ms => do
    let (k, v) ← ms.foldlM (fun s m =>
      match m.1 with
      | "key" => do .ok (← fill s.1 "key" (textOf m.2), s.2)
      | "value" => do .ok (s.1, ← fill s.2 "value" (value m.2))
      | _ => .ok s) ((none, none) : Option String × Option α)
    .ok ⟨← required "key" k, ← required "value" v⟩
  | .arr vs => do
    let expected := "struct EnumEntry with 2 elements"
    let (k, vs) ← nextOf 0 expected textOf vs
    let (v, vs) ← nextOf 1 expected value vs
    noMore 2 vs
    .ok ⟨k, v⟩
  | v => .error (.invalidType (found v) "struct EnumEntry")

def membersOf {α : Type} (value : Json → Decoded α) : Json → Decoded (List (Member α)) :=
  listOf (memberOf value)

def entryOf (node : Json → Decoded Node) : Json → Decoded (Entry Node)
  | .obj ms => do
    let (n, t, g) ← ms.foldlM (fun s m =>
      match m.1 with
      | "name" => do .ok (← fill s.1 "name" (textOf m.2), s.2)
      | "type" => do .ok (s.1, ← fill s.2.1 "type" (node m.2), s.2.2)
      | "tag" => do .ok (s.1, s.2.1, ← fill s.2.2 "tag" (textOf m.2))
      | _ => .ok s) ((none, none, none) : Option String × Option Node × Option String)
    .ok ⟨← required "name" n, ← required "type" t, g.getD ""⟩
  | .arr vs => do
    let expected := "struct ObjectEntry with 3 elements"
    let (n, vs) ← nextOf 0 expected textOf vs
    let (t, vs) ← nextOf 1 expected node vs
    let (g, vs) ← nextOr "" textOf vs
    noMore 3 vs
    .ok ⟨n, t, g⟩
  | v => .error (.invalidType (found v) "struct ObjectEntry")

/-- The one field of an array or of a nullable. -/
def innerOf (variant : String) (node : Json → Decoded Node) : Body → Decoded Node
  | .named ms => do
    let inner ← ms.foldlM (fun s m =>
      match m.1 with
      | "inner" => fill s "inner" (node m.2)
      | _ => .ok s) none
    required "inner" inner
  | .listed vs => do
    let (inner, vs) ← nextOf 0 ("struct variant Type::" ++ variant ++ " with 1 element") node vs
    noMore 1 vs
    .ok inner

def mapOf (node : Json → Decoded Node) : Body → Decoded Node
  | .named ms => do
    let (k, v) ← ms.foldlM (fun s m =>
      match m.1 with
      | "key" => do .ok (← fill s.1 "key" (node m.2), s.2)
      | "value" => do .ok (s.1, ← fill s.2 "value" (node m.2))
      | _ => .ok s) ((none, none) : Option Node × Option Node)
    .ok (.map (← required "key" k) (← required "value" v))
  | .listed vs => do
    let expected := "struct variant Type::Map with 2 elements"
    let (k, vs) ← nextOf 0 expected node vs
    let (v, vs) ← nextOf 1 expected node vs
    noMore 2 vs
    .ok (.map k v)

def objectOf (node : Json → Decoded Node) : Body → Decoded Node
  | .named ms => do
    let (n, es) ← ms.foldlM (fun s m =>
      match m.1 with
      | "name" => do .ok (← fill s.1 "name" (textOf m.2), s.2)
      | "entries" => do .ok (s.1, ← fill s.2 "entries" (listOf (entryOf node) m.2))
      | _ => .ok s) ((none, none) : Option String × Option (List (Entry Node)))
    .ok (.object (n.getD "") (es.getD []))
  | .listed vs => do
    let (n, vs) ← nextOr "" textOf vs
    let (es, vs) ← nextOr [] (listOf (entryOf node)) vs
    noMore 2 vs
    .ok (.object n es)

def stringOf : Body → Decoded Node
  | .named ms => do
    let (n, es) ← ms.foldlM (fun s m =>
      match m.1 with
      | "name" => do .ok (← fill s.1 "name" (textOf m.2), s.2)
      | "enum" => do .ok (s.1, ← fill s.2 "enum" (membersOf textOf m.2))
      | _ => .ok s) ((none, none) : Option String × Option (List (Member String)))
    .ok (.string (n.getD "") (es.getD []))
  | .listed vs => do
    let (n, vs) ← nextOr "" textOf vs
    let (es, vs) ← nextOr [] (membersOf textOf) vs
    noMore 2 vs
    .ok (.string n es)

def numericOf : Body → Decoded Node
  | .named ms => do
    let (n, r, es) ← ms.foldlM (fun s m =>
      match m.1 with
      | "name" => do .ok (← fill s.1 "name" (textOf m.2), s.2)
      | "repr" => do .ok (s.1, ← fill s.2.1 "repr" (reprOf true m.2), s.2.2)
      | "enum" => do .ok (s.1, s.2.1, ← fill s.2.2 "enum" (membersOf numberOf m.2))
      | _ => .ok s) ((none, none, none) : Option String × Option Representation × Option (List (Member Number)))
    .ok (.number (n.getD "") (← required "repr" r) (es.getD []))
  | .listed vs => do
    let (n, vs) ← nextOr "" textOf vs
    let (r, vs) ← nextOf 1 "struct NumberType with 3 elements" (reprOf true) vs
    let (es, vs) ← nextOr [] (membersOf numberOf) vs
    noMore 3 vs
    .ok (.number n r es)

/-- A kind without fields. -/
def plainOf (node : Node) : Body → Decoded Node
  | .named _ => .ok node
  | .listed vs => do
    noMore 0 vs
    .ok node

/-! ## Nodes -/

/-- The node of a kind with these fields. -/
def ofBody (node : Json → Decoded Node) : Kind → Body → Decoded Node
  | .array, b => .array <$> innerOf "Array" node b
  | .map, b => mapOf node b
  | .object, b => objectOf node b
  | .string, b => stringOf b
  | .number, b => numericOf b
  | .boolean, b => plainOf .boolean b
  | .date, b => plainOf .date b
  | .any, b => plainOf .any b
  | .nullable, b => .nullable <$> innerOf "Nullable" node b

def notANode {α : Type} (v : Json) : Decoded α :=
  .error (.invalidType (found v) "internally tagged enum Type")

def withoutKind (members : List (String × Json)) : List (String × Json) :=
  members.filter fun m => m.1 != "kind"

/-- A node from a value with at most `nesting` containers inside each other. -/
def ofJson : Nat → Json → Decoded Node
  | 0, _ => .error .recursionLimit
  | n + 1, v =>
    match v with
    | .obj ms => do
      let k ← kindAmong none ms
      ofBody (ofJson n) k (.named (withoutKind ms))
    | .arr [] => .error (.missingField "kind")
    | .arr (t :: rest) => do
      let k ← kindOf t
      ofBody (ofJson n) k (.listed rest)
    | v => notANode v

/-! ## Outermost nodes -/

/-- The kind of an outermost node is a name. -/
def kindValue : Json.Reader Kind := fun cs => do
  let (s, rest) ← Json.stringValue "variant identifier" cs
  let k ← kindNamed s
  .ok (k, rest)

/-- Takes one member, from its colon on: the kind is checked where it stands, the rest is kept. -/
def outerMember (nesting : Nat) (s : Option Kind × List (String × Json)) (key : String) :
    Json.Reader (Option Kind × List (String × Json)) := fun cs =>
  if key = "kind" then
    if s.1.isSome then .error (.duplicateField "kind")
    else do
      let (k, rest) ← Json.afterColon kindValue cs
      .ok ((some k, s.2), rest)
  else do
    let (v, rest) ← Json.afterColon (Json.value nesting) cs
    .ok ((s.1, (key, v) :: s.2), rest)

def outerItem (nesting : Nat) (s : Option Kind × List Json) : Json.Reader (Option Kind × List Json) :=
  fun cs =>
    if s.1.isSome then do
      let (v, rest) ← Json.value nesting cs
      .ok ((s.1, v :: s.2), rest)
    else do
      let (k, rest) ← kindValue cs
      .ok ((some k, s.2), rest)

/-- A node read from a text. Its fields are looked at once the whole node has been read. -/
def read : Nat → Json.Reader Node := fun nesting cs =>
  match Json.skipBlanks cs with
  | '{' :: rest =>
    match nesting with
    | 0 => .error .recursionLimit
    | n + 1 => do
      let ((k, ms), rest) ← Json.members (outerMember n) (none, []) rest
      let node ← ofBody (ofJson (n + 1)) (← required "kind" k) (.named ms.reverse)
      .ok (node, rest)
  | '[' :: rest =>
    match nesting with
    | 0 => .error .recursionLimit
    | n + 1 => do
      let ((k, vs), rest) ← Json.items (outerItem n) (none, []) rest
      let node ← ofBody (ofJson (n + 1)) (← required "kind" k) (.listed vs.reverse)
      .ok (node, rest)
  | cs => Json.mismatch "internally tagged enum Type" cs

def parse (text : String) : Except Fault Node := Json.whole (read Json.nestingLimit) text

end Declgen.Node
