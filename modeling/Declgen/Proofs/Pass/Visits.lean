import Declgen.Pass
import Declgen.Proofs.Artifact
import Declgen.Proofs.Model.Loadable
import Declgen.Proofs.Naming.Answer

/-!
# Visits as rules

`Visits` gives a pass by rules, one for each thing that can happen to the node that is next. The nodes that
wait stand in a list, in the order of their visits, so a pass over a whole model is one derivation. What a
pass keeps is proved by induction on it, and a case of it is all that a visit can do.
-/

namespace Declgen

/-! ## Nodes -/

/-- What a node has generated for it: a struct or a constant block, under the qualified name it carries. -/
inductive Declaration where
  | object (qualified : String) (entries : List (Entry Node))
  | constants (qualified : String) (base : Primitive) (members : List (Member ConstantValue))

namespace Declaration

def qualified : Declaration → String
  | .object qualified _ | .constants qualified _ _ => qualified

/-- The mention of what is generated under `name`. -/
def mention (name : String) : Declaration → TypeExpr
  | .object _ _ => .struct name
  | .constants _ _ _ => .typeAlias name

end Declaration

namespace Node

/-- An object declares a struct; a string or a number with members declares a constant block. -/
def declaration? : Node → Option Declaration
  | .object name entries => some (.object name entries)
  | .string name members =>
    if members.isEmpty then none
    else some (.constants name .string (members.map fun m => ⟨m.key, .str m.value⟩))
  | .number name repr members =>
    if members.isEmpty then none
    else some (.constants name (.number repr) (members.map fun m => ⟨m.key, .num m.value⟩))
  | _ => none

/-- The type of a node that says nothing of other nodes and leaves no trace. -/
def plain? : Node → Option TypeExpr
  | .string _ members => if members.isEmpty then some (.primitive .string) else none
  | .number _ repr members => if members.isEmpty then some (.primitive (.number repr)) else none
  | .boolean => some (.primitive .bool)
  | .any => some .any
  | _ => none

theorem eq_of_plain? {node : Node} {t : TypeExpr} (h : node.plain? = some t) : (∃ p, t = .primitive p) ∨ t = .any := by
  cases node with
  | string _ members | number _ _ members =>
    cases members with
    | nil => exact .inl ⟨_, (Option.some.inj h).symm⟩
    | cons => simp [plain?] at h
  | boolean => exact .inl ⟨_, (Option.some.inj h).symm⟩
  | any => exact .inr (Option.some.inj h).symm
  | _ => simp [plain?] at h

end Node

/-! ## The rules -/

/-- A node, and where it stands. -/
structure Site where
  place : Context
  node : Node

/-- The sites of fields, from position `index` on. -/
def fieldSites (parent : String) : Nat → List (Entry Node) → List Site
  | _, [] => []
  | index, e :: rest => ⟨.field parent index .value, e.type⟩ :: fieldSites parent (index + 1) rest

def rootSite (root : String × Node) : Site := ⟨.root root.1 .value, root.2⟩

/-- The fields of a struct, from those of an object and their types. -/
def fieldArtifacts (entries : List (Entry Node)) (types : List TypeExpr) : List FieldArtifact :=
  List.zipWith (fun e t => ⟨e.name, t, e.tag⟩) entries types

/-- The constant block of members under `name`. -/
def constantBlock (name qualified : String) (base : Primitive) (members : List (Member ConstantValue)) :
    ConstantArtifact :=
  ⟨name, base, members.map fun m => ⟨Pass.constantName name (QualifiedName.bare qualified) m.key, m.value⟩⟩

/-- `Visits hook sites p types q`: the visits of `sites` take `p` to `q` and give `types`. -/
inductive Visits (hook : Hook) : List Site → Pass → List TypeExpr → Pass → Prop where
  | nil {p : Pass} : Visits hook [] p [] p
  /-- The hook answers. -/
  | external {place node rest type p types q} :
      hook node = some type → Visits hook rest (p.external type).2 types q →
      Visits hook (⟨place, node⟩ :: rest) p ((p.external type).1 :: types) q
  | array {place inner rest p t types q} :
      hook (.array inner) = none → Visits hook (⟨place, inner⟩ :: rest) p (t :: types) q →
      Visits hook (⟨place, .array inner⟩ :: rest) p (.vec t :: types) q
  | map {place key value rest p k v types q} :
      hook (.map key value) = none →
      Visits hook (⟨place.mapKey, key⟩ :: ⟨place, value⟩ :: rest) p (k :: v :: types) q →
      Visits hook (⟨place, .map key value⟩ :: rest) p (.map k v :: types) q
  | nullable {place inner rest p t types q} :
      hook (.nullable inner) = none → Visits hook (⟨place, inner⟩ :: rest) p (t :: types) q →
      Visits hook (⟨place, .nullable inner⟩ :: rest) p
        ((if inner.isContainer then t else .optional t) :: types) q
  | plain {place node rest p t types q} :
      hook node = none → node.plain? = some t → Visits hook rest p types q →
      Visits hook (⟨place, node⟩ :: rest) p (t :: types) q
  | date {place rest p types q} :
      hook .date = none → Visits hook rest { p with found := p.found.requireDateTime } types q →
      Visits hook (⟨place, .date⟩ :: rest) p (.dateTime :: types) q
  /-- What is declared is there already, or is under way. -/
  | known {place node d name rest p types q} :
      hook node = none → node.declaration? = some d → p.memoized? d.qualified = some name →
      Visits hook rest p types q →
      Visits hook (⟨place, node⟩ :: rest) p (d.mention name :: types) q
  /-- A new struct: its name, then the visits of its fields, then the struct itself. -/
  | object {place qualified entries name names fields p p' rest types q} :
      hook (.object qualified entries) = none → p.memoized? qualified = none →
      p.names.allocate qualified place = some (name, names) →
      Visits hook (fieldSites name 0 (sortBy (·.name) entries)) { p with names } fields p' →
      Visits hook rest
        { p' with found := p'.found.addObject ⟨name, fieldArtifacts (sortBy (·.name) entries) fields⟩ }
        types q →
      Visits hook (⟨place, .object qualified entries⟩ :: rest) p (.struct name :: types) q
  /-- A new constant block. -/
  | constants {place node qualified base members name names p rest types q} :
      hook node = none → node.declaration? = some (.constants qualified base members) →
      p.memoized? qualified = none → p.names.allocate qualified place = some (name, names) →
      Visits hook rest ⟨names, p.found.addConstant (constantBlock name qualified base members)⟩ types q →
      Visits hook (⟨place, node⟩ :: rest) p (.typeAlias name :: types) q

/-! ## Every visit goes by the rules -/

/-- A visit of `node` is what a rule needs to be applied to it, whatever is visited after it. -/
def Follows (hook : Hook) (node : Node) : Prop :=
  ∀ {place p t q}, node.visit hook place p = some (t, q) →
    ∀ {rest types r}, Visits hook rest q types r → Visits hook (⟨place, node⟩ :: rest) p (t :: types) r

variable {hook : Hook}

theorem Node.visit_of_external {node : Node} {type : ExternalType} (h : hook node = some type)
    (place : Context) (p : Pass) : node.visit hook place p = some (p.external type) := by
  cases node <;> simp only [Node.visit, h]

theorem Follows.of_declined {node : Node} (h : hook node = none → Follows hook node) : Follows hook node := by
  intro place p t q hvisit rest types r hrest
  cases hhook : hook node with
  | none => exact h hhook hvisit hrest
  | some type =>
    rw [Node.visit_of_external hhook] at hvisit
    obtain ⟨rfl, rfl⟩ := Prod.mk.inj (Option.some.inj hvisit)
    exact .external hhook hrest

theorem fields_visits {parent : String} {entries : List (Entry Node)}
    (h : ∀ e ∈ entries, Follows hook e.type) {index : Nat} {p q : Pass} {fields : List FieldArtifact}
    (hfields : Pass.fields parent index (entries.map fun e => ⟨e.name, e.type.visit hook, e.tag⟩) p =
      some (fields, q)) :
    ∃ types, Visits hook (fieldSites parent index entries) p types q ∧
      fields = fieldArtifacts entries types := by
  induction entries generalizing index p fields with
  | nil =>
    obtain ⟨rfl, rfl⟩ := Prod.mk.inj (Option.some.inj hfields)
    exact ⟨[], .nil, rfl⟩
  | cons e rest ih =>
    obtain ⟨he, hrest⟩ := List.forall_mem_cons.mp h
    simp only [List.map_cons, Pass.fields, Option.bind_eq_bind, Option.bind_eq_some_iff, Prod.exists] at hfields
    obtain ⟨t, p', hvisit, more, q', hmore, hout⟩ := hfields
    obtain ⟨rfl, rfl⟩ := Prod.mk.inj (Option.some.inj hout)
    obtain ⟨types, hvisits, rfl⟩ := ih hrest hmore
    exact ⟨t :: types, he hvisit hvisits, rfl⟩

theorem follows_of_enumeration {α : Type} {node : Node} {qualified : String} {base : Primitive}
    {value : α → ConstantValue} {members : List (Member α)} (hhook : hook node = none)
    (hdeclares : node.declaration? =
      some (.constants qualified base (members.map fun m => ⟨m.key, value m.value⟩)))
    (hvisit : node.visit hook = Pass.enumeration qualified base value members) : Follows hook node := by
  intro place p t q h rest types r hrest
  rw [hvisit, Pass.enumeration] at h
  cases hmemo : p.memoized? qualified with
  | some name =>
    simp only [hmemo] at h
    obtain ⟨rfl, rfl⟩ := Prod.mk.inj (Option.some.inj h)
    exact .known hhook hdeclares hmemo hrest
  | none =>
    simp only [hmemo, Option.bind_eq_bind, Option.bind_eq_some_iff, Prod.exists] at h
    obtain ⟨name, names, hname, hout⟩ := h
    obtain ⟨rfl, rfl⟩ := Prod.mk.inj (Option.some.inj hout)
    refine .constants hhook hdeclares hmemo hname ?_
    simpa [constantBlock, Function.comp_def] using hrest

theorem follows_of_object {qualified : String} {entries : List (Entry Node)}
    (hhook : hook (.object qualified entries) = none) (hfields : ∀ e ∈ entries, Follows hook e.type) :
    Follows hook (.object qualified entries) := by
  intro place p t q h rest types r hrest
  simp only [Node.visit, hhook, Node.visits_eq_map, Pass.object] at h
  cases hmemo : p.memoized? qualified with
  | some name =>
    simp only [hmemo] at h
    obtain ⟨rfl, rfl⟩ := Prod.mk.inj (Option.some.inj h)
    exact .known hhook rfl hmemo hrest
  | none =>
    simp only [hmemo, Option.bind_eq_bind, Option.bind_eq_some_iff, Prod.exists] at h
    obtain ⟨name, names, hname, fields, p', hvisited, hout⟩ := h
    obtain ⟨rfl, rfl⟩ := Prod.mk.inj (Option.some.inj hout)
    rw [← map_sortBy fun e : Entry Node => rfl] at hvisited
    obtain ⟨ts, hts, rfl⟩ := fields_visits (fun e he => hfields e (mem_sortBy.mp he)) hvisited
    exact .object hhook hmemo hname hts hrest

theorem follows_of_plain {node : Node} {t : TypeExpr} (hhook : hook node = none)
    (hplain : node.plain? = some t) (hvisit : node.visit hook = fun _ p => some (t, p)) :
    Follows hook node := by
  intro place p s q h rest types r hrest
  rw [hvisit] at h
  obtain ⟨rfl, rfl⟩ := Prod.mk.inj (Option.some.inj h)
  exact .plain hhook hplain hrest

theorem node_follows (hook : Hook) (node : Node) : Follows hook node := by
  induction node using Node.induction with
  | array inner ih =>
    refine Follows.of_declined fun hhook place p t q h rest types r hrest => ?_
    simp only [Node.visit, hhook, Option.bind_eq_bind, Option.bind_eq_some_iff, Prod.exists] at h
    obtain ⟨s, q', hinner, hout⟩ := h
    obtain ⟨rfl, rfl⟩ := Prod.mk.inj (Option.some.inj hout)
    exact .array hhook (ih hinner hrest)
  | map key value ihk ihv =>
    refine Follows.of_declined fun hhook place p t q h rest types r hrest => ?_
    simp only [Node.visit, hhook, Option.bind_eq_bind, Option.bind_eq_some_iff, Prod.exists] at h
    obtain ⟨k, p', hkey, v, q', hvalue, hout⟩ := h
    obtain ⟨rfl, rfl⟩ := Prod.mk.inj (Option.some.inj hout)
    exact .map hhook (ihk hkey (ihv hvalue hrest))
  | nullable inner ih =>
    refine Follows.of_declined fun hhook place p t q h rest types r hrest => ?_
    simp only [Node.visit, hhook, Option.bind_eq_bind, Option.bind_eq_some_iff, Prod.exists] at h
    obtain ⟨s, q', hinner, hout⟩ := h
    obtain ⟨rfl, rfl⟩ := Prod.mk.inj (Option.some.inj hout)
    exact .nullable hhook (ih hinner hrest)
  | object name entries ih => exact Follows.of_declined fun hhook => follows_of_object hhook ih
  | string name members =>
    refine Follows.of_declined fun hhook => ?_
    cases members with
    | nil => exact follows_of_plain hhook rfl (by funext place p; simp [Node.visit, hhook])
    | cons m ms => exact follows_of_enumeration hhook rfl (by funext place p; simp [Node.visit, hhook])
  | number name repr members =>
    refine Follows.of_declined fun hhook => ?_
    cases members with
    | nil => exact follows_of_plain hhook rfl (by funext place p; simp [Node.visit, hhook])
    | cons m ms => exact follows_of_enumeration hhook rfl (by funext place p; simp [Node.visit, hhook])
  | boolean =>
    exact Follows.of_declined fun hhook =>
      follows_of_plain hhook rfl (by funext place p; simp [Node.visit, hhook])
  | date =>
    refine Follows.of_declined fun hhook place p t q h rest types r hrest => ?_
    simp only [Node.visit, hhook] at h
    obtain ⟨rfl, rfl⟩ := Prod.mk.inj (Option.some.inj h)
    exact .date hhook hrest
  | any =>
    exact Follows.of_declined fun hhook =>
      follows_of_plain hhook rfl (by funext place p; simp [Node.visit, hhook])

theorem roots_visits {roots : List (String × Node)} {p q : Pass} (h : Pass.roots hook roots p = some q) :
    ∃ types, Visits hook (roots.map rootSite) p types q := by
  induction roots generalizing p with
  | nil =>
    obtain rfl := Option.some.inj h
    exact ⟨[], .nil⟩
  | cons root rest ih =>
    simp only [Pass.roots, Option.bind_eq_bind, Option.bind_eq_some_iff, Prod.exists] at h
    obtain ⟨t, p', hvisit, hrest⟩ := h
    obtain ⟨types, hvisits⟩ := ih hrest
    exact ⟨t :: types, node_follows hook root.2 hvisit hvisits⟩

/-- A pass over a model is a derivation from its roots, in the order of their names. -/
theorem run_visits {model : Model} {prereserved : List String} {tries : Nat} {p : Pass}
    (h : Pass.run model hook prereserved tries = some p) :
    ∃ types, Visits hook ((sortBy (·.1) model).map rootSite) (.start (.new prereserved tries)) types p :=
  roots_visits h

/-! ## What is new -/

theorem Pass.memoized?_eq_none_iff {p : Pass} {qualified : String} :
    p.memoized? qualified = none ↔ (qualified ≠ "" → p.names.lookup? qualified = none) := by
  by_cases h : qualified = "" <;> simp [memoized?, h]

theorem Pass.memoized?_eq_some_iff {p : Pass} {qualified name : String} :
    p.memoized? qualified = some name ↔ qualified ≠ "" ∧ p.names.lookup? qualified = some name := by
  by_cases h : qualified = "" <;> simp [memoized?, h]

theorem handOut_of_memoized {p : Pass} {qualified name : String} {place : Context} {names : Allocator}
    (hmemo : p.memoized? qualified = none) (h : p.names.allocate qualified place = some (name, names)) :
    names = p.names.handOut (p.names.subject? qualified place) name ∧ name ∉ p.names.reserved ∧
      ∀ q, p.names.subject? qualified place = some q → p.names.lookup? q = none := by
  have hunknown : ∀ q, p.names.subject? qualified place = some q → p.names.lookup? q = none := by
    intro q hq
    unfold Allocator.subject? at hq
    split at hq
    · rename_i hnamed
      obtain rfl := Option.some.inj hq
      exact Pass.memoized?_eq_none_iff.mp hmemo (by simpa using hnamed)
    · split at hq
      · split at hq
        · obtain rfl := Option.some.inj hq
          exact Option.isNone_iff_eq_none.mp ‹_›
        · simp at hq
      · simp at hq
  cases Allocator.allocate_answers h with
  | known hsubject hlookup => simp [hunknown _ hsubject] at hlookup
  | fresh _ hfree => exact ⟨rfl, hfree, hunknown⟩

/-! ## What stays -/

/-- `q` has all names, artifacts and imports that `p` has. -/
structure Pass.Extends (p q : Pass) : Prop where
  names : p.names.Extends q.names
  found : p.found.Extends q.found

theorem Pass.Extends.refl (p : Pass) : p.Extends p := ⟨.refl _, .refl _⟩

theorem Pass.Extends.trans {p q r : Pass} (hpq : p.Extends q) (hqr : q.Extends r) : p.Extends r :=
  ⟨hpq.names.trans hqr.names, List.Subset.trans hpq.found.all hqr.found.all,
    List.Subset.trans hpq.found.imports hqr.found.imports, fun h => hqr.found.dates (hpq.found.dates h)⟩

theorem Pass.extends_names {p : Pass} {names : Allocator} (h : p.names.Extends names) :
    p.Extends { p with names } := ⟨h, .refl _⟩

theorem Pass.extends_found {p : Pass} {found : Artifacts} (h : p.found.Extends found) :
    p.Extends { p with found } := ⟨.refl _, h⟩

theorem Pass.extends_external (p : Pass) (type : ExternalType) : p.Extends (p.external type).2 := by
  unfold external
  split
  · exact .refl p
  · exact ⟨.refl _, Artifacts.extends_addImport _ _ _⟩

theorem Visits.grows {sites : List Site} {p q : Pass} {types : List TypeExpr}
    (h : Visits hook sites p types q) : p.Extends q := by
  induction h with
  | nil => exact .refl _
  | external _ _ ih => exact (Pass.extends_external _ _).trans ih
  | array _ _ ih | map _ _ ih | nullable _ _ ih | plain _ _ _ ih | known _ _ _ _ ih => exact ih
  | date _ _ ih => exact (Pass.extends_found (Artifacts.extends_requireDateTime _)).trans ih
  | object _ _ hname _ _ ihfields ih =>
    have hfields := (Pass.extends_names (Allocator.allocate_answers hname).grows).trans ihfields
    exact hfields.trans ((Pass.extends_found (Artifacts.extends_addObject _ _)).trans ih)
  | constants _ _ _ hname _ ih =>
    have hnamed := Pass.extends_names (Allocator.allocate_answers hname).grows
    exact hnamed.trans ((Pass.extends_found (Artifacts.extends_addConstant _ _)).trans ih)

end Declgen
