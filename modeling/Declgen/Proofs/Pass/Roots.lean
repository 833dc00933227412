import Declgen.Proofs.Ordered
import Declgen.Proofs.Pass.Refines

/-!
# What a root declares

A root that is an object of its own name is generated from the first declaration of that name that a pass
comes to. This need not be the root itself: a bare mention below a root with a smaller name is a declaration
without fields. Roots with greater names, and what stands below the root itself, take nothing from it.
-/

namespace Declgen

/-! ## All declarations of a node -/

mutual
/-- What a node and the nodes below it declare, whether or not a pass comes to it. -/
def Node.declarations : Node → List Declaration
  | .array inner | .nullable inner => declarations inner
  | .map key value => declarations key ++ declarations value
  | .object name entries => .object name entries :: declarationsOfEntries entries
  | .string name members => (Node.string name members).declaration?.toList
  | .number name repr members => (Node.number name repr members).declaration?.toList
  | .boolean | .date | .any => []

def Node.declarationsOfEntries : List (Entry Node) → List Declaration
  | [] => []
  | e :: rest => declarations e.type ++ declarationsOfEntries rest
end

namespace Node

theorem mem_declarationsOfEntries {d : Declaration} {entries : List (Entry Node)} :
    d ∈ declarationsOfEntries entries ↔ ∃ e ∈ entries, d ∈ e.type.declarations := by
  induction entries with
  | nil => simp [declarationsOfEntries]
  | cons e rest ih => simp only [declarationsOfEntries, List.mem_append, ih, List.exists_mem_cons_iff]

theorem mem_declarations_of_declaration? {node : Node} {d : Declaration} (h : node.declaration? = some d) :
    d ∈ node.declarations := by
  cases node with
  | object name entries =>
    obtain rfl := Option.some.inj h
    exact List.mem_cons_self
  | string _ _ | number _ _ _ => exact Option.mem_toList.mpr h
  | _ => simp [declaration?] at h

end Node

theorem Spot.mem_declarations_of_below {s t : Spot} (ht : t ∈ s.below) {d : Declaration}
    (hd : d ∈ t.node.declarations) : d ∈ s.node.declarations := by
  obtain ⟨root?, node⟩ := s
  cases node with
  | array inner | nullable inner =>
    obtain rfl := List.mem_singleton.mp ht
    exact hd
  | map key value =>
    rcases List.mem_cons.mp ht with rfl | ht
    · exact List.mem_append_left _ hd
    · obtain rfl := List.mem_singleton.mp ht
      exact List.mem_append_right _ hd
  | object name entries =>
    obtain ⟨e, he, rfl⟩ := List.mem_map.mp ht
    exact List.mem_cons_of_mem _ (Node.mem_declarationsOfEntries.mpr ⟨e, mem_sortBy.mp he, hd⟩)
  | _ => simp [below] at ht

theorem Spot.root?_of_below {s t : Spot} (ht : t ∈ s.below) {key : String} (hkey : t.root? = some key) :
    s.root? = some key := by
  obtain ⟨root?, node⟩ := s
  cases node with
  | array inner | nullable inner =>
    obtain rfl := List.mem_singleton.mp ht
    exact hkey
  | map _ value =>
    rcases List.mem_cons.mp ht with rfl | ht
    · simp at hkey
    · obtain rfl := List.mem_singleton.mp ht
      exact hkey
  | object name entries =>
    obtain ⟨e, -, rfl⟩ := List.mem_map.mp ht
    simp at hkey
  | _ => simp [below] at ht

/-! ## Where findings come from -/

theorem Spot.Within.declares {spots : List Spot} {t : Spot} (h : Spot.Within spots t) {d : Declaration}
    (hd : d ∈ t.node.declarations) : ∃ s ∈ spots, d ∈ s.node.declarations := by
  induction h with
  | here ht => exact ⟨_, ht, hd⟩
  | inside _ ht ih => exact ih (Spot.mem_declarations_of_below ht hd)

theorem Spot.Within.stands {spots : List Spot} {t : Spot} (h : Spot.Within spots t) {key : String}
    (hkey : t.root? = some key) : ∃ s ∈ spots, s.root? = some key := by
  induction h with
  | here ht => exact ⟨_, ht, hkey⟩
  | inside _ ht ih => exact ih (Spot.root?_of_below ht hkey)

theorem Declaration.claim?_eq_some {d : Declaration} {root? : Option String} {claimed : List String}
    {key : String} (h : d.claim? root? claimed = some key) : d.qualified = key ∨ root? = some key := by
  unfold claim? at h
  split at h
  · exact .inl (Option.some.inj h)
  · exact .inr (Option.mem_filter_iff.mp h).1

/-! ## The roots before a root -/

/-- The roots that a pass visits before the root `key`. -/
def Model.before (m : Model) (key : String) : Model := m.filter fun root => root.1 < key

/-- The declaration of the name `key` that a pass comes to before it comes to the root of that name. -/
def Model.earlier? (m : Model) (hook : Hook) (key : String) : Option Declaration :=
  (((m.before key).survey hook).find? (·.declaration.qualified == key)).map (·.declaration)

theorem Model.stems_of_survey {m : Model} {hook : Hook} {f : Finding} (hf : f ∈ m.survey hook) :
    (∃ root ∈ m, f.declaration ∈ root.2.declarations) ∧
      ∀ key, f.claim? = some key → f.declaration.qualified = key ∨ key ∈ m.map (·.1) := by
  obtain ⟨t, known, ht, -, hd, hclaim⟩ := exists_spot_of_mem_survey hf
  refine ⟨?_, fun key hkey => ?_⟩
  · obtain ⟨s, hs, hdeclared⟩ := ht.declares (Node.mem_declarations_of_declaration? hd)
    obtain ⟨root, hroot, rfl⟩ := List.mem_map.mp hs
    exact ⟨root, mem_sortBy.mp hroot, hdeclared⟩
  · rcases Declaration.claim?_eq_some (hclaim.symm.trans hkey) with hown | hroot
    · exact .inl hown
    · obtain ⟨s, hs, hroot⟩ := ht.stands hroot
      obtain ⟨root, hmem, rfl⟩ := List.mem_map.mp hs
      obtain rfl := Option.some.inj hroot
      exact .inr (List.mem_map_of_mem (mem_sortBy.mp hmem))

theorem Model.exists_of_earlier? {m : Model} {hook : Hook} {key : String} {d : Declaration}
    (h : m.earlier? hook key = some d) :
    d.qualified = key ∧ ∃ root ∈ m, root.1 < key ∧ d ∈ root.2.declarations := by
  obtain ⟨f, hfind, rfl⟩ := Option.map_eq_some_iff.mp h
  have hname : f.declaration.qualified = key := by simpa using List.find?_some hfind
  obtain ⟨⟨root, hroot, hdeclared⟩, -⟩ := Model.stems_of_survey (List.mem_of_find?_eq_some hfind)
  obtain ⟨hmem, hlt⟩ := List.mem_filter.mp hroot
  exact ⟨hname, root, hmem, of_decide_eq_true hlt, hdeclared⟩

theorem Model.exists_survey_eq {m : Model} (hm : m.Distinct) (hook : Hook) {key : String}
    {entries : List (Entry Node)} (hroot : (key, .object key entries) ∈ m) :
    ∃ rest, m.survey hook = (m.before key).survey hook ++
      Declgen.survey hook (⟨some key, .object key entries⟩ :: rest) (claims ((m.before key).survey hook)) := by
  obtain ⟨after, hsplit⟩ := exists_sortBy_eq_append (fun root : String × Node => root.1) hm hroot
  refine ⟨after.map fun root => ⟨some root.1, root.2⟩, ?_⟩
  unfold Model.survey
  rw [hsplit, List.map_append, survey_append]
  rfl

theorem Model.mem_survey_of_root {m : Model} (hm : m.Distinct) {hook : Hook} {key : String}
    {entries : List (Entry Node)} (hkey : key ≠ "") (hhook : hook (.object key entries) = none)
    (hroot : (key, .object key entries) ∈ m) :
    ⟨some key, (m.earlier? hook key).getD (.object key entries)⟩ ∈ m.survey hook := by
  obtain ⟨rest, hsurvey⟩ := Model.exists_survey_eq hm hook hroot
  rw [hsurvey]
  cases hfind : ((m.before key).survey hook).find? (·.declaration.qualified == key) with
  | some f =>
    have hname : f.declaration.qualified = key := by simpa using List.find?_some hfind
    have hmem := List.mem_of_find?_eq_some hfind
    have hclaim : f.claim? = some key :=
      hname ▸ survey_claim?_of_named hook _ [] f hmem (hname.symm ▸ hkey)
    have hf : (⟨some key, f.declaration⟩ : Finding) = f := by rw [← hclaim]
    simp only [Model.earlier?, hfind, Option.map_some, Option.getD_some, hf]
    exact List.mem_append_left _ hmem
  | none =>
    -- An earlier root has another name, so it does not claim this one as its own either.
    have hnew : key ∉ claims ((m.before key).survey hook) := by
      intro hclaimed
      obtain ⟨f, hf, hclaim⟩ := List.mem_filterMap.mp hclaimed
      rcases (Model.stems_of_survey hf).2 key hclaim with hown | hearlier
      · simpa [hown] using List.find?_eq_none.mp hfind f hf
      · obtain ⟨root, hmem, rfl⟩ := List.mem_map.mp hearlier
        exact String.lt_irrefl _ (of_decide_eq_true (List.mem_filter.mp hmem).2)
    have hclaim : (Declaration.object key entries).claim? (some key)
        (claims ((m.before key).survey hook)) = some key := if_pos hkey
    rw [survey_new (d := .object key entries) hhook rfl fun _ => hnew, hclaim]
    simp only [Model.earlier?, hfind, Option.map_none, Option.getD_none]
    exact List.mem_append_right _ List.mem_cons_self

/-! ## What is generated -/

/-- `d` is what is generated under its qualified name, by one artifact that shares its name with no other. -/
def Pass.Generates (p : Pass) (hook : Hook) (d : Declaration) : Prop :=
  ∃ a ∈ p.found.sorted.all, p.names.lookup? d.qualified = some a.name ∧ a.Declares hook p.names d ∧
    ∀ b ∈ p.found.sorted.all, b.name = a.name → b = a

theorem Pass.generates_of_mem_survey {m : Model} {hook : Hook} {prereserved : List String} {tries : Nat}
    {p : Pass} (hrun : Pass.run m hook prereserved tries = some p) {f : Finding} (hf : f ∈ m.survey hook)
    (hclaim : f.claim? = some f.declaration.qualified) : p.Generates hook f.declaration := by
  obtain ⟨-, artifacts, hgives, hall⟩ := run_gives hrun
  obtain ⟨a, ha, hfa⟩ := exists_mem_of_forall₂ hgives hf
  have hnames : (p.found.sorted.all.map Artifact.name).Nodup := by
    rw [← Artifacts.names_eq]
    exact p.found.names_sorted_perm.nodup_iff.mpr (run_underWay hrun).complete.distinct
  refine ⟨a, hall.mem_iff.mpr ha, hfa.named _ hclaim, hfa.declared, fun b hb hname => ?_⟩
  exact List.inj_on_of_nodup_map hnames hb (hall.mem_iff.mpr ha) hname

/-- A root that is an object of its own name is generated from the first declaration of that name. It is its
own declaration, with one field for each entry, unless a root with a smaller name holds one. -/
theorem run_generates_root (m : Model) (prereserved : List String) (tries : Nat) (p : Pass) (key : String)
    (entries : List (Entry Node)) (hload : m.Loadable) (hrun : Pass.run m .none prereserved tries = some p)
    (hroot : (key, .object key entries) ∈ m) :
    p.Generates .none ((m.earlier? .none key).getD (.object key entries)) ∧
      ((∀ root ∈ m, root.1 < key → ∀ d ∈ root.2.declarations, d.qualified ≠ key) →
        p.Generates .none (.object key entries)) := by
  have hkey : key ≠ "" := by
    rintro rfl
    exact (Model.flaw?_eq_none_iff.mp hload.sound _ hroot).1 rfl
  have hmem := Model.mem_survey_of_root hload.distinct hkey (rfl : Hook.none _ = none) hroot
  cases hearlier : m.earlier? .none key with
  | none =>
    rw [hearlier] at hmem
    have hown := Pass.generates_of_mem_survey hrun hmem rfl
    exact ⟨hown, fun _ => hown⟩
  | some d =>
    obtain ⟨hname, root, hother, hlt, hdeclared⟩ := Model.exists_of_earlier? hearlier
    rw [hearlier] at hmem
    refine ⟨Pass.generates_of_mem_survey hrun hmem (congrArg some hname.symm), fun hnone => ?_⟩
    exact (hnone root hother hlt d hdeclared hname).elim

/-- An object that mentions itself, and is mentioned by a root with a greater name. -/
def treeModel : Model := [
  ("pkg.Use", .object "pkg.Use" [⟨"tree", .object "pkg.Tree" [], ""⟩]),
  ("pkg.Tree", .object "pkg.Tree" [
    ⟨"next", .nullable (.object "pkg.Tree" []), ""⟩,
    ⟨"leaf", .any, "json:\"l\""⟩]),
  ("pkg.Kind", .string "pkg.Kind" [⟨"KindOne", "one"⟩])]

theorem run_generates_root_tree :
    ∃ p, Pass.run treeModel .none ["old.Tree"] 1 = some p ∧
      p.Generates .none (.object "pkg.Tree" [
        ⟨"next", .nullable (.object "pkg.Tree" []), ""⟩,
        ⟨"leaf", .any, "json:\"l\""⟩]) := by
  have h : (Pass.run treeModel .none ["old.Tree"] 1).isSome = true := by decide +kernel
  obtain ⟨p, hp⟩ := Option.isSome_iff_exists.mp h
  have hload : treeModel.Loadable := ⟨by unfold Model.Distinct; decide, by decide +kernel⟩
  have hgenerates := run_generates_root treeModel ["old.Tree"] 1 p "pkg.Tree" _ hload hp
    (List.mem_cons_of_mem _ List.mem_cons_self)
  refine ⟨p, hp, hgenerates.2 ?_⟩
  intro root hroot hlt d hd
  simp only [treeModel, List.mem_cons, List.not_mem_nil, or_false] at hroot
  rcases hroot with rfl | rfl | rfl
  · exact absurd hlt (by decide)
  · exact absurd hlt (by decide)
  · obtain rfl : d = .constants "pkg.Kind" .string [⟨"KindOne", .str "one"⟩] := by
      simpa [Node.declarations, Node.declaration?] using hd
    exact by decide

/-- A list of items, and the item itself under a greater name. -/
def listModel : Model := [
  ("a.List", .array (.object "b.Item" [])),
  ("b.Item", .object "b.Item" [⟨"cost", .any, ""⟩])]

/-- The bare mention comes first, so the struct of the item has no field, where the root declares one. -/
theorem run_loses_root :
    listModel.Loadable ∧ ("b.Item", .object "b.Item" [⟨"cost", .any, ""⟩]) ∈ listModel ∧
      ∃ p, Pass.run listModel .none [] Allocator.defaultTries = some p ∧
        p.names.lookup? "b.Item" = some "Item" ∧ p.found.sorted.objects = [⟨"Item", []⟩] := by
  refine ⟨⟨by unfold Model.Distinct; decide, by decide +kernel⟩, List.mem_cons_of_mem _ List.mem_cons_self, ?_⟩
  have h : ((Pass.run listModel .none [] Allocator.defaultTries).map fun p =>
      (p.names.lookup? "b.Item", p.found.sorted.objects)) = some (some "Item", [⟨"Item", []⟩]) := by
    decide +kernel
  obtain ⟨p, hp, hpair⟩ := Option.map_eq_some_iff.mp h
  obtain ⟨hname, hobjects⟩ := Prod.mk.inj hpair
  exact ⟨p, hp, hname, hobjects⟩

end Declgen
