import Declgen.Proofs.Pass.Roots
import Mathlib.Logic.Relation

/-!
# Second visits

What a node declares is settled by the first visit, if it carries a name. Whatever the pass does next, another
visit of the node, at whatever place, gives the same type and leaves the pass as it is.
-/

namespace Declgen

variable {hook : Hook} {p q r : Pass}

/-! ## What a pass does next -/

namespace Pass

/-- A single change of what a pass has named and found. -/
inductive Step : Pass → Pass → Prop where
  | allocate {p : Pass} {qualified name : String} {place : Context} {names : Allocator} :
      p.names.allocate qualified place = some (name, names) → Step p { p with names }
  | external (p : Pass) (type : ExternalType) : Step p (p.external type).2
  | date (p : Pass) : Step p { p with found := p.found.requireDateTime }
  | object (p : Pass) (o : ObjectArtifact) : Step p { p with found := p.found.addObject o }
  | constants (p : Pass) (c : ConstantArtifact) : Step p { p with found := p.found.addConstant c }

/-- The pass comes from `p` to `q`, which may be in the middle of a visit. -/
def Later (p q : Pass) : Prop := Relation.ReflTransGen Step p q

theorem Step.grows (h : Step p q) : p.Extends q := by
  cases h with
  | allocate hname => exact extends_names (Allocator.allocate_answers hname).grows
  | external type => exact p.extends_external type
  | date => exact extends_found (Artifacts.extends_requireDateTime _)
  | object o => exact extends_found (Artifacts.extends_addObject _ o)
  | constants c => exact extends_found (Artifacts.extends_addConstant _ c)

theorem Later.grows (h : p.Later q) : p.Extends q := by
  induction h with
  | refl => exact .refl p
  | tail _ hstep ih => exact ih.trans hstep.grows

end Pass

theorem Visits.later {sites : List Site} {types : List TypeExpr} (h : Visits hook sites p types q) : p.Later q := by
  induction h with
  | nil => exact .refl
  | external _ _ ih => exact .head (.external _ _) ih
  | array _ _ ih | map _ _ ih | nullable _ _ ih | plain _ _ _ ih | known _ _ _ _ ih => exact ih
  | date _ _ ih => exact .head (.date _) ih
  | object _ _ hname _ _ ihfields ih => exact .head (.allocate hname) (ihfields.trans (.head (.object _ _) ih))
  | constants _ _ _ hname _ ih =>
    exact .head (.allocate hname) (.head (.constants ⟨_, _⟩ _) ih)

/-! ## What a second visit finds -/

namespace Artifacts

variable {a : Artifacts}

theorem addImport_of_mem {importAlias : String} (h : importAlias ∈ a.imports.map (·.importAlias)) (path : String) :
    a.addImport importAlias path = a := by
  have hany : a.imports.any (·.importAlias == importAlias) = true := by simpa using h
  unfold addImport
  rw [if_pos hany]

theorem requireDateTime_of_uses (h : a.usesDateTime = true) : a.requireDateTime = a := by
  unfold requireDateTime
  rw [← h]

end Artifacts

theorem Pass.external_again {type : ExternalType} (h : (p.external type).2.Extends r) :
    r.external type = ((p.external type).1, r) := by
  have himports := h.found.imports
  unfold external at himports ⊢
  split
  · rfl
  · rename_i hpath
    rw [if_neg hpath] at himports
    have hmem := himports (Artifacts.mem_aliases_addImport (a := p.found) (importAlias type.path) type.path)
    simp only [Artifacts.addImport_of_mem hmem]

theorem Denotes.mention_of_declaration? {names : Allocator} {node : Node} {t : TypeExpr} {d : Declaration}
    (h : Denotes hook names node t) (hhook : hook node = none) (hd : node.declaration? = some d) :
    ∃ name, t = d.mention name ∧ (d.qualified ≠ "" → names.lookup? d.qualified = some name) := by
  cases h with
  | external hanswer => simp [hanswer] at hhook
  | declared _ hdeclares hname =>
    obtain rfl := Option.some.inj (hdeclares.symm.trans hd)
    exact ⟨_, rfl, hname⟩
  | plain _ hplain => cases node <;> simp_all [Node.declaration?, Node.plain?]
  | _ => simp [Node.declaration?] at hd

namespace Node

variable {node : Node} {place : Context} {t : TypeExpr}

theorem visits_of_visit (h : node.visit hook place p = some (t, q)) : Visits hook [⟨place, node⟩] p [t] q :=
  node_follows hook node h .nil

theorem visit_of_known {d : Declaration} {name : String} (hhook : hook node = none)
    (hd : node.declaration? = some d) (hmemo : p.memoized? d.qualified = some name) (place : Context) :
    node.visit hook place p = some (d.mention name, p) := by
  cases node with
  | object qualified entries =>
    obtain rfl := Option.some.inj hd
    simp only [Declaration.qualified] at hmemo
    simp only [visit, hhook, Pass.object, hmemo]
    rfl
  | string qualified members | number qualified _ members =>
    cases members with
    | nil => simp [declaration?] at hd
    | cons m ms =>
      obtain rfl := Option.some.inj hd
      simp only [Declaration.qualified] at hmemo
      simp [visit, hhook, Pass.enumeration, hmemo, Declaration.mention]
  | _ => simp [declaration?] at hd

/-- All that a node declares, at whatever depth, carries a name. -/
def Named (node : Node) : Prop := ∀ d ∈ node.declarations, d.qualified ≠ ""

end Node

/-- Visits after the first one give what it gave, at whatever place, and leave no trace. -/
def Settles (hook : Hook) (node : Node) : Prop :=
  ∀ {place p t q}, node.visit hook place p = some (t, q) →
    ∀ {r : Pass}, q.Extends r → ∀ other, node.visit hook other r = some (t, r)

theorem Settles.of_declined {node : Node} (h : hook node = none → Settles hook node) : Settles hook node := by
  intro place p t q hvisit r hr other
  cases hhook : hook node with
  | none => exact h hhook hvisit hr other
  | some type =>
    rw [Node.visit_of_external hhook] at hvisit ⊢
    have hout : p.external type = (t, q) := Option.some.inj hvisit
    rw [Pass.external_again (p := p) (by rw [hout]; exact hr), hout]

theorem settles_of_plain {node : Node} (s : TypeExpr) (hvisit : node.visit hook = fun _ p => some (s, p)) :
    Settles hook node := by
  intro place p t q h r hr other
  rw [hvisit] at h ⊢
  obtain ⟨rfl, rfl⟩ := Prod.mk.inj (Option.some.inj h)
  rfl

theorem settles_of_declaration? {node : Node} {d : Declaration} (hhook : hook node = none)
    (hd : node.declaration? = some d) (hnamed : node.Named) : Settles hook node := by
  intro place p t q h r hr other
  have hne := hnamed d (Node.mem_declarations_of_declaration? hd)
  obtain ⟨hdenotes, -⟩ := List.forall₂_cons.mp (Node.visits_of_visit h).denotes
  obtain ⟨name, rfl, hname⟩ := hdenotes.mention_of_declaration? hhook hd
  -- The name may belong to a struct that is still under way; the memory does not tell.
  have hmemo : r.memoized? d.qualified = some name :=
    Pass.memoized?_eq_some_iff.mpr ⟨hne, hr.names.lookup (hname hne)⟩
  exact Node.visit_of_known hhook hd hmemo other

theorem node_settles (hook : Hook) {node : Node} (hnamed : node.Named) : Settles hook node := by
  induction node using Node.induction with
  | array inner ih | nullable inner ih =>
    refine Settles.of_declined fun hhook place p t q h r hr other => ?_
    simp only [Node.visit, hhook, Option.bind_eq_bind, Option.bind_eq_some_iff, Prod.exists] at h ⊢
    obtain ⟨s, q', hinner, hout⟩ := h
    obtain ⟨rfl, rfl⟩ := Prod.mk.inj (Option.some.inj hout)
    exact ⟨s, r, ih hnamed hinner hr other, rfl⟩
  | map key value ihk ihv =>
    obtain ⟨hkey, hvalue⟩ := List.forall_mem_append.mp hnamed
    refine Settles.of_declined fun hhook place p t q h r hr other => ?_
    simp only [Node.visit, hhook, Option.bind_eq_bind, Option.bind_eq_some_iff, Prod.exists] at h ⊢
    obtain ⟨k, p', hk, v, q', hv, hout⟩ := h
    obtain ⟨rfl, rfl⟩ := Prod.mk.inj (Option.some.inj hout)
    have hgrows := (Node.visits_of_visit hv).grows
    exact ⟨k, r, ihk hkey hk (hgrows.trans hr) other.mapKey, v, r, ihv hvalue hv hr other, rfl⟩
  | object name entries _ => exact Settles.of_declined fun hhook => settles_of_declaration? hhook rfl hnamed
  | string name members =>
    refine Settles.of_declined fun hhook => ?_
    cases members with
    | nil => exact settles_of_plain (.primitive .string) (by funext place p; simp [Node.visit, hhook])
    | cons m ms => exact settles_of_declaration? hhook rfl hnamed
  | number name repr members =>
    refine Settles.of_declined fun hhook => ?_
    cases members with
    | nil => exact settles_of_plain (.primitive (.number repr)) (by funext place p; simp [Node.visit, hhook])
    | cons m ms => exact settles_of_declaration? hhook rfl hnamed
  | boolean =>
    exact Settles.of_declined fun hhook =>
      settles_of_plain (.primitive .bool) (by funext place p; simp [Node.visit, hhook])
  | any => exact Settles.of_declined fun hhook => settles_of_plain .any (by funext place p; simp [Node.visit, hhook])
  | date =>
    refine Settles.of_declined fun hhook place p t q h r hr other => ?_
    simp only [Node.visit, hhook] at h ⊢
    obtain ⟨rfl, rfl⟩ := Prod.mk.inj (Option.some.inj h)
    rw [Artifacts.requireDateTime_of_uses (hr.found.dates rfl)]

/-- Once a node of named declarations is visited, the pass goes on as it would without any other visit of it: the
memory of names, the names handed out, the artifacts, the imports and the use of dates all stay as they are. -/
theorem visit_again (hook : Hook) (node : Node) (hnamed : node.Named) (place : Context) (p q : Pass) (t : TypeExpr)
    (h : node.visit hook place p = some (t, q)) :
    p.Later q ∧ ∀ r, q.Later r → ∀ other, node.visit hook other r = some (t, r) :=
  ⟨(Node.visits_of_visit h).later, fun _ hr other => node_settles hook hnamed h hr.grows other⟩

/-- A map whose value mentions itself, with an enumeration for its keys, a date and a type from elsewhere. -/
def ledgerNode : Node :=
  .map (.string "pkg.State" [⟨"StateOn", "on"⟩]) (.nullable (.object "pkg.Entry" [
    ⟨"next", .nullable (.object "pkg.Entry" []), ""⟩, ⟨"since", .date, ""⟩, ⟨"cost", .array .any, ""⟩]))

/-- Here it is visited again below a field of a struct whose name is handed out and whose fields are to come. -/
theorem visit_again_ledger : ∃ t q name names, ledgerNode.Named ∧
    ledgerNode.visit moneyHook (.root "ledger" .value) (.start (.new ["other.State"] 1)) = some (t, q) ∧
    q.names.allocate "" (.root "more" .value) = some (name, names) ∧
    ledgerNode.visit moneyHook (.field name 0 .mapKey) { q with names } = some (t, { q with names }) := by
  have hnamed : ledgerNode.Named := by
    intro d hd
    simp [ledgerNode, Node.declarations, Node.declarationsOfEntries, Node.declaration?] at hd
    rcases hd with rfl | rfl | rfl <;> decide
  have hboth : ((ledgerNode.visit moneyHook (.root "ledger" .value) (.start (.new ["other.State"] 1))).bind fun x =>
      x.2.names.allocate "" (.root "more" .value)).isSome = true := by decide +kernel
  obtain ⟨⟨name, names⟩, hboth⟩ := Option.isSome_iff_exists.mp hboth
  obtain ⟨⟨t, q⟩, hfirst, hname⟩ := Option.bind_eq_some_iff.mp hboth
  have hlater : q.Later { q with names } := .single (.allocate hname)
  exact ⟨t, q, name, names, hnamed, hfirst, hname, (visit_again _ _ hnamed _ _ _ _ hfirst).2 _ hlater _⟩

end Declgen
