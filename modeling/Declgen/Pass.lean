import Declgen.Artifact
import Declgen.Naming
import Declgen.Override

/-!
# A pass over a model

Every node becomes a type expression. The hook is asked first. An object becomes a struct, and a string or a
number with members a constant block; each is generated once for a qualified name, and later mentions refer
to it. The name is allocated before the fields are visited, so an object may mention itself.
-/

namespace Declgen

/-- What a pass has named and found so far. -/
structure Pass where
  names : Allocator
  found : Artifacts

/-- A visit of a node at a place. There is no answer if the names run out. -/
abbrev Visit := Context → Pass → Option (TypeExpr × Pass)

namespace Pass

def start (names : Allocator) : Pass := ⟨names, .empty⟩

/-- The name of a constant: the allocated name and the key, less the identifier if the key starts with it. -/
def constantName (allocated identifier key : String) : String :=
  let id := identifier.toList
  let cs := key.toList
  allocated ++ String.ofList (if id.isPrefixOf cs then cs.drop id.length else cs)

/-- The type for an answer of the hook. -/
def external (p : Pass) (type : ExternalType) : TypeExpr × Pass :=
  if type.path.isEmpty then (.external none type.name, p)
  else
    let imported := importAlias type.path
    (.external (some imported) type.name, { p with found := p.found.addImport imported type.path })

/-- The name under which a qualified name has been generated, or is being generated. -/
def memoized? (p : Pass) (qualified : String) : Option String :=
  if qualified.isEmpty then none else p.names.lookup? qualified

/-- Generates the constant block of an enumeration, unless it is there. -/
def enumeration {α : Type} (qualified : String) (base : Primitive) (value : α → ConstantValue)
    (members : List (Member α)) : Visit := fun ctx p =>
  match p.memoized? qualified with
  | some name => some (.typeAlias name, p)
  | none => do
    let (name, names) ← p.names.allocate qualified ctx
    let identifier := QualifiedName.bare qualified
    let entries := members.map fun m => ⟨constantName name identifier m.key, value m.value⟩
    some (.typeAlias name, ⟨names, p.found.addConstant ⟨name, base, entries⟩⟩)

/-- Visits fields one after the other, from position `index` on. -/
def fields (parent : String) : Nat → List (Entry Visit) → Pass → Option (List FieldArtifact × Pass)
  | _, [], p => some ([], p)
  | index, e :: rest, p => do
    let (type, p) ← e.type (.field parent index .value) p
    let (more, p) ← fields parent (index + 1) rest p
    some (⟨e.name, type, e.tag⟩ :: more, p)

/-- Generates the struct of an object, unless it is there. Fields are visited in the order of their names. -/
def object (qualified : String) (entries : List (Entry Visit)) : Visit := fun ctx p =>
  match p.memoized? qualified with
  | some name => some (.struct name, p)
  | none => do
    let (name, names) ← p.names.allocate qualified ctx
    let (fields, p) ← fields name 0 (sortBy (·.name) entries) { p with names }
    some (.struct name, { p with found := p.found.addObject ⟨name, fields⟩ })

end Pass

mutual
/-- The visit of a node. -/
def Node.visit (hook : Hook) (node : Node) (ctx : Context) (p : Pass) : Option (TypeExpr × Pass) :=
  match hook node with
  | some type => some (p.external type)
  | none =>
    match node with
    | .array inner => do
      let (t, p) ← visit hook inner ctx p
      some (.vec t, p)
    | .map key value => do
      let (k, p) ← visit hook key ctx.mapKey p
      let (v, p) ← visit hook value ctx p
      some (.map k v, p)
    | .object name entries => Pass.object name (visits hook entries) ctx p
    | .string name members =>
      if members.isEmpty then some (.primitive .string, p)
      else Pass.enumeration name .string .str members ctx p
    | .number name repr members =>
      if members.isEmpty then some (.primitive (.number repr), p)
      else Pass.enumeration name (.number repr) .num members ctx p
    | .boolean => some (.primitive .bool, p)
    | .date => some (.dateTime, { p with found := p.found.requireDateTime })
    | .any => some (.any, p)
    | .nullable inner => do
      let (t, p) ← visit hook inner ctx p
      some (if inner.isContainer then t else .optional t, p)
termination_by structural node

/-- The visits of the nodes of fields. -/
def Node.visits (hook : Hook) (entries : List (Entry Node)) : List (Entry Visit) :=
  match entries with
  | [] => []
  | e :: rest => ⟨e.name, visit hook e.type, e.tag⟩ :: visits hook rest
termination_by structural entries
end

theorem Node.visits_eq_map (hook : Hook) (entries : List (Entry Node)) :
    visits hook entries = entries.map fun e => ⟨e.name, e.type.visit hook, e.tag⟩ := by
  induction entries with
  | nil => rfl
  | cons e rest ih => simp [visits, ih]

namespace Pass

/-- Visits roots in the order given. -/
def roots (hook : Hook) : List (String × Node) → Pass → Option Pass
  | [], p => some p
  | root :: rest, p => do
    let (_, p) ← root.2.visit hook (.root root.1 .value) p
    roots hook rest p

/-- The pass over a whole model, in the order of root names. -/
def run (model : Model) (hook : Hook) (prereserved : List String) (tries : Nat) : Option Pass :=
  roots hook (sortBy (·.1) model) (start (.new prereserved tries))

end Pass

end Declgen
