import Declgen.Generate
import Declgen.Proofs.Model.Reordered
import Declgen.Proofs.Pass.Complete

/-!
# Generation does not depend on order

A pass visits roots by key and fields by name, and artifacts are sorted at the end. Each of these sorts has
distinct keys to work on, so a reordered model gives the same file or the same fault.
-/

namespace Declgen

variable {hook : Hook}

/-! ## Nodes -/

theorem Node.visit_congr {a b : Node} (hhook : hook a = hook b)
    (h : hook a = none → hook b = none → a.visit hook = b.visit hook) : a.visit hook = b.visit hook := by
  cases ha : hook a with
  | none => exact h ha (hhook ▸ ha)
  | some type =>
    funext place p
    rw [Node.visit_of_external ha, Node.visit_of_external (hhook ▸ ha)]

theorem Node.visit_object {name : String} {entries : List (Entry Node)}
    (h : hook (.object name entries) = none) :
    (Node.object name entries).visit hook = Pass.object name (visits hook entries) := by
  funext place p
  simp only [visit, h]

theorem Pass.object_eq_of_perm {name : String} {es fs : List (Entry Visit)} (h : es.Perm fs)
    (hnames : (es.map (·.name)).Nodup) : Pass.object name es = Pass.object name fs := by
  unfold Pass.object
  rw [sortBy_eq_of_perm h hnames]

namespace Node.Reordered

theorem visits_perm {es fs : List (Entry Node)} (h : es.Perm fs) :
    (visits hook es).Perm (visits hook fs) := by
  rw [visits_eq_map, visits_eq_map]
  exact h.map _

theorem visit_eq {a b : Node} (h : a.Reordered b) (hhook : hook.ByName) (ha : a.Distinct) :
    a.visit hook = b.visit hook := by
  induction h with
  | refl => rfl
  | trans hab _ ihab ihbc => exact (ihab ha).trans (ihbc (hab.distinct ha))
  | array hab ih =>
    refine visit_congr (hhook _ _ rfl rfl) fun hnone hnone' => ?_
    funext place p
    simp only [visit, hnone, hnone', ih ha]
  | map hkl hvw ihk ihv =>
    refine visit_congr (hhook _ _ rfl rfl) fun hnone hnone' => ?_
    funext place p
    simp only [visit, hnone, hnone', ihk ha.1, ihv ha.2]
  | nullable hab ih =>
    refine visit_congr (hhook _ _ rfl rfl) fun hnone hnone' => ?_
    funext place p
    simp only [visit, hnone, hnone', ih ha, hab.isContainer_eq]
  | entries name hperm =>
    refine visit_congr (hhook _ _ rfl rfl) fun hnone hnone' => ?_
    rw [visit_object hnone, visit_object hnone']
    refine Pass.object_eq_of_perm (visits_perm hperm) ?_
    simpa [visits_eq_map, Function.comp_def] using ha.1
  | field name before e after hab ih =>
    refine visit_congr (hhook _ _ rfl rfl) fun hnone hnone' => ?_
    have he : e.type.Distinct := allDistinct_iff.mp ha.2 e (by simp)
    rw [visit_object hnone, visit_object hnone']
    simp only [visits_eq_map, List.map_append, List.map_cons, ih he]

end Node.Reordered

/-! ## Roots -/

/-- A root, as far as a pass looks at it. -/
def rootVisit (hook : Hook) (root : String × Node) : String × Visit := (root.1, root.2.visit hook)

theorem Pass.roots_congr {rs ss : List (String × Node)}
    (h : rs.map (rootVisit hook) = ss.map (rootVisit hook)) (p : Pass) :
    Pass.roots hook rs p = Pass.roots hook ss p := by
  induction rs generalizing ss p with
  | nil =>
    obtain rfl := List.map_eq_nil_iff.mp h.symm
    rfl
  | cons r rest ih =>
    obtain ⟨s, ss, rfl, hrs, hrest⟩ := List.map_eq_cons_iff.mp h.symm
    obtain ⟨hkey, hvisit⟩ := Prod.mk.inj hrs
    simp only [Pass.roots, hkey, hvisit, ih hrest.symm]

theorem Model.Reordered.visits_perm {m n : Model} (h : m.Reordered n) (hhook : hook.ByName)
    (hm : ∀ root ∈ m, root.2.Distinct) : (m.map (rootVisit hook)).Perm (n.map (rootVisit hook)) := by
  induction h with
  | roots hperm => exact hperm.map _
  | @node before key after a b hab =>
    have ha : a.Distinct := hm (key, a) (by simp)
    simp [rootVisit, hab.visit_eq hhook ha]
  | trans hmn _ ihmn ihno => exact (ihmn hm).trans (ihno (hmn.node_distinct hm))

theorem run_eq_of_reordered {m n : Model} (h : m.Reordered n) (hhook : hook.ByName) (hm : m.Loadable)
    (prereserved : List String) (tries : Nat) :
    Pass.run m hook prereserved tries = Pass.run n hook prereserved tries := by
  have hsort (o : Model) :
      (sortBy (·.1) o).map (rootVisit hook) = sortBy (·.1) (o.map (rootVisit hook)) :=
    @map_sortBy _ _ (·.1) (·.1) (rootVisit hook) (fun _ => rfl) o
  unfold Pass.run
  refine Pass.roots_congr ?_ _
  rw [hsort, hsort]
  refine sortBy_eq_of_perm (h.visits_perm hhook fun root => hm.node) ?_
  simpa [rootVisit, Function.comp_def, Model.Distinct] using hm.distinct

/-! ## Imports -/

theorem Pass.UnderWay.paths_nodup {p : Pass} {pending : List String} (h : p.UnderWay pending) :
    (p.found.imports.map (·.path)).Nodup := by
  have haliases : p.found.imports.map (·.importAlias) = (p.found.imports.map (·.path)).map importAlias := by
    rw [List.map_map]
    exact List.map_congr_left h.aliased
  exact List.Pairwise.of_map importAlias (fun _ _ => mt (congrArg importAlias)) (haliases ▸ h.imports)

/-! ## Generation -/

namespace Request

/-- Generation where the imports are a map that is enumerated in the order that `enumerate` gives. -/
def generateWith (r : Request) (enumerate : List ImportRecord → List ImportRecord) :
    Except GenerationFault Generated :=
  match Pass.run r.model r.hook r.reserve Allocator.defaultTries with
  | none => .error .noFreeName
  | some p => do
    let artifacts := { p.found with imports := enumerate p.found.imports }.sorted
    let source ← Render.file r.config artifacts
    .ok ⟨source, artifacts⟩

/-- The same request, but for the order of roots, entries and rules. -/
structure Reordered (r s : Request) : Prop where
  model : r.model.Reordered s.model
  hook : r.hook.Reordered s.hook
  reserve : r.reserve = s.reserve
  config : r.config = s.config

theorem generateWith_eq (r : Request) {enumerate : List ImportRecord → List ImportRecord}
    (h : ∀ imports, (enumerate imports).Perm imports) : r.generateWith enumerate = r.generate := by
  unfold generateWith generate
  cases hrun : Pass.run r.model r.hook r.reserve Allocator.defaultTries with
  | none => rfl
  | some p =>
    have hsorted : sortBy (·.path) (enumerate p.found.imports) = sortBy (·.path) p.found.imports :=
      (sortBy_eq_of_perm (h _).symm (run_underWay hrun).paths_nodup).symm
    simp only [Artifacts.sorted, hsorted]

/-- What is generated, file or fault, depends on a model that loads only up to order, and not at all on the
order in which imports are enumerated. -/
theorem generate_eq_of_reordered (r s : Request) (hmodel : r.model.Loadable) (h : r.Reordered s)
    (enumerate : List ImportRecord → List ImportRecord)
    (henumerate : ∀ imports, (enumerate imports).Perm imports) :
    s.generate = r.generate ∧ s.generateWith enumerate = r.generate := by
  have hrun := run_eq_of_reordered h.model h.hook.byName hmodel r.reserve Allocator.defaultTries
  have hgenerate : s.generate = r.generate := by
    unfold generate
    rw [hrun, h.hook.eq, h.reserve, h.config]
  exact ⟨hgenerate, (s.generateWith_eq henumerate).trans hgenerate⟩

/-- A shop with an anonymous object below it, and two rules by kind. -/
def shop : Request where
  model := [
    ("pkg.Log", .map (.string "" []) .any),
    ("pkg.Shop", .object "pkg.Shop" [
      ⟨"open", .boolean, ""⟩,
      ⟨"items", .array (.object "" [⟨"cost", .any, ""⟩, ⟨"at", .date, ""⟩]), ""⟩])]
  hook := Rules.resolve ⟨[], [("any", ⟨"crate::money", "Money"⟩), ("date", ⟨"crate::time", "Instant"⟩)]⟩
  reserve := ["other.Item"]
  config := .default

/-- The same shop, listed the other way round. -/
def shopReversed : Request where
  model := [
    ("pkg.Shop", .object "pkg.Shop" [
      ⟨"items", .array (.object "" [⟨"at", .date, ""⟩, ⟨"cost", .any, ""⟩]), ""⟩,
      ⟨"open", .boolean, ""⟩]),
    ("pkg.Log", .map (.string "" []) .any)]
  hook := Rules.resolve ⟨[], [("date", ⟨"crate::time", "Instant"⟩), ("any", ⟨"crate::money", "Money"⟩)]⟩
  reserve := ["other.Item"]
  config := .default

theorem generate_eq_of_reversed_shop :
    shopReversed.generate = shop.generate ∧ shopReversed.generateWith List.reverse = shop.generate := by
  refine generate_eq_of_reordered shop shopReversed ⟨?_, ?_⟩ ⟨?_, ?_, rfl, rfl⟩ _ List.reverse_perm
  · unfold Model.Distinct
    decide
  · decide +kernel
  · -- The roots, then the fields of the shop, then those of its items.
    refine .trans (.roots (.swap _ _ [])) (.node [] "pkg.Shop" _ (.trans (.entries _ (.swap _ _ [])) ?_))
    exact .field _ [] _ _ (.array (.entries _ (.swap _ _ [])))
  · exact .rules (by decide) (by decide) (.refl _) (.swap _ _ [])

end Request

end Declgen
