import Mathlib.Data.List.Lattice
import Mathlib.Data.List.Nodup
import Mathlib.Data.List.Pairwise
import Declgen.Proofs.Pass.Hygiene

/-!
# Names of constants

A constant goes by the name of its block and the key of its member, one behind the other. The names of blocks are
handed out once, but nothing is handed out for a constant. So the names of constants may fall together, and here is
how.
-/

namespace Declgen

/-! ## A block and its constants -/

/-- What the key adds to the name of its block. -/
def Pass.suffix (identifier key : String) : String := constantName "" identifier key

theorem Pass.constantName_eq (name identifier key : String) :
    constantName name identifier key = name ++ suffix identifier key := by
  unfold suffix constantName
  simp

namespace ConstantArtifact

def entryNames (c : ConstantArtifact) : List String := c.entries.map (·.name)

/-- What stands behind the name of the block in the names of its constants. -/
def suffixes (c : ConstantArtifact) : List String :=
  c.entryNames.map fun name => String.ofList (name.toList.drop c.name.toList.length)

/-- The block is named in front of each of its constants. -/
def Leads (c : ConstantArtifact) : Prop := c.entryNames = c.suffixes.map (c.name ++ ·)

end ConstantArtifact

/-- The names of all constants, block by block. -/
def Artifacts.constantNames (a : Artifacts) : List String := a.constants.flatMap (·.entryNames)

section Block

variable (name qualified : String) (base : Primitive) (members : List (Member ConstantValue))

theorem suffixes_constantBlock : (constantBlock name qualified base members).suffixes =
    members.map fun m => Pass.suffix (QualifiedName.bare qualified) m.key := by
  simp [ConstantArtifact.suffixes, ConstantArtifact.entryNames, constantBlock, Pass.constantName_eq]

theorem leads_constantBlock : (constantBlock name qualified base members).Leads := by
  unfold ConstantArtifact.Leads
  rw [suffixes_constantBlock]
  simp [ConstantArtifact.entryNames, constantBlock, Pass.constantName_eq]

end Block

/-! ## When names fall together -/

theorem append_left_injective (a : String) : Function.Injective (a ++ ·) :=
  fun _ _ => (String.append_right_inj a).mp

theorem exists_of_append_eq {a b s u : String} (h : a ++ s = b ++ u) :
    (∃ t, b = a ++ t ∧ s = t ++ u) ∨ ∃ t, a = b ++ t ∧ u = t ++ s := by
  have hlists : a.toList ++ s.toList = b.toList ++ u.toList := by
    rw [← String.toList_append, h, String.toList_append]
  rcases List.append_eq_append_iff.mp hlists with ⟨t, hb, hs⟩ | ⟨t, ha, hu⟩
  · refine .inl ⟨String.ofList t, ?_, ?_⟩ <;> apply String.toList_injective <;> simpa
  · refine .inr ⟨String.ofList t, ?_, ?_⟩ <;> apply String.toList_injective <;> simpa

namespace ConstantArtifact

variable {c d : ConstantArtifact}

/-- The name of `d` goes on from the name of `c`, and a constant of `c` goes on the same way to one of `d`. -/
def Runs (c d : ConstantArtifact) : Prop :=
  ∃ t, t ≠ "" ∧ d.name = c.name ++ t ∧ ∃ s ∈ d.suffixes, t ++ s ∈ c.suffixes

theorem Runs.name_ne (h : c.Runs d) : c.name ≠ d.name := by
  obtain ⟨t, ht, hname, -⟩ := h
  rw [hname]
  intro hsame
  exact ht (by simpa using hsame.symm)

theorem Leads.nodup_iff (h : c.Leads) : c.entryNames.Nodup ↔ c.suffixes.Nodup := by
  unfold Leads at h
  rw [h]
  exact List.nodup_map_iff (append_left_injective c.name)

theorem Leads.mem_iff (h : c.Leads) {name : String} :
    name ∈ c.entryNames ↔ ∃ s ∈ c.suffixes, c.name ++ s = name := by
  unfold Leads at h
  rw [h, List.mem_map]

theorem Leads.disjoint_iff (hc : c.Leads) (hd : d.Leads) (hne : c.name ≠ d.name) :
    List.Disjoint c.entryNames d.entryNames ↔ ¬c.Runs d ∧ ¬d.Runs c := by
  constructor
  · intro hdisjoint
    constructor
    · rintro ⟨t, -, hname, s, hs, hts⟩
      refine hdisjoint (hc.mem_iff.mpr ⟨_, hts, rfl⟩) (hd.mem_iff.mpr ⟨s, hs, ?_⟩)
      rw [hname, String.append_assoc]
    · rintro ⟨t, -, hname, s, hs, hts⟩
      refine hdisjoint (hc.mem_iff.mpr ⟨s, hs, ?_⟩) (hd.mem_iff.mpr ⟨_, hts, rfl⟩)
      rw [hname, String.append_assoc]
  · rintro ⟨hcd, hdc⟩ name hmemc hmemd
    obtain ⟨s, hs, rfl⟩ := hc.mem_iff.mp hmemc
    obtain ⟨u, hu, hsame⟩ := hd.mem_iff.mp hmemd
    -- one block name is the start of the other, and what is between them is not empty
    rcases exists_of_append_eq hsame with ⟨t, hname, rfl⟩ | ⟨t, hname, rfl⟩
    · refine hdc ⟨t, ?_, hname, s, hs, hu⟩
      rintro rfl
      exact hne (by simpa using hname)
    · refine hcd ⟨t, ?_, hname, u, hu, hs⟩
      rintro rfl
      exact hne (by simpa using hname.symm)

end ConstantArtifact

theorem Artifacts.nodup_constantNames_iff {a : Artifacts} (hnames : (a.constants.map (·.name)).Nodup)
    (hleads : ∀ c ∈ a.constants, c.Leads) :
    a.constantNames.Nodup ↔
      (∀ c ∈ a.constants, c.suffixes.Nodup) ∧ ∀ c ∈ a.constants, ∀ d ∈ a.constants, ¬c.Runs d := by
  unfold constantNames
  rw [List.nodup_flatMap]
  refine and_congr (forall₂_congr fun c hc => (hleads c hc).nodup_iff) ?_
  constructor
  · intro hpairwise c hc d hd hruns
    have hne : c ≠ d := fun hsame => hruns.name_ne (congrArg (·.name) hsame)
    have : Std.Symm (Function.onFun List.Disjoint ConstantArtifact.entryNames) := ⟨fun _ _ h => List.Disjoint.symm h⟩
    have hdisjoint := hpairwise.forall hc hd hne
    exact (((hleads c hc).disjoint_iff (hleads d hd) hruns.name_ne).mp hdisjoint).1 hruns
  · intro hruns
    refine (List.Nodup.of_map _ hnames).pairwise_of_forall_ne fun c hc d hd hne => ?_
    have hname : c.name ≠ d.name := fun hname => hne (List.inj_on_of_nodup_map hnames hc hd hname)
    exact ((hleads c hc).disjoint_iff (hleads d hd) hname).mpr ⟨hruns c hc d hd, hruns d hd c hc⟩

/-! ## The constants of a file -/

theorem Pass.exists_members {model : Model} {hook : Hook} {prereserved : List String} {tries : Nat} {p : Pass}
    (hrun : run model hook prereserved tries = some p) {c : ConstantArtifact} (hc : c ∈ p.found.constants) :
    ∃ root ∈ model, ∃ qualified members, .constants qualified c.base members ∈ root.2.declarations ∧
      c = constantBlock c.name qualified c.base members := by
  obtain ⟨-, artifacts, hgives, hperm⟩ := run_gives hrun
  have hall : .block c ∈ p.found.sorted.all :=
    (Artifacts.all_sorted_perm p.found).mem_iff.mpr (List.mem_append_right _ (List.mem_map_of_mem hc))
  obtain ⟨f, hf, -, hdeclares⟩ := exists_mem_of_forall₂ hgives.flip (hperm.mem_iff.mp hall)
  obtain ⟨⟨root, hroot, hdeclared⟩, -⟩ := Model.stems_of_survey hf
  cases hd : f.declaration with
  | object qualified entries =>
    rw [hd] at hdeclares
    exact hdeclares.elim
  | constants qualified base members =>
    rw [hd] at hdeclares hdeclared
    obtain ⟨hbase, hentries⟩ := hdeclares
    refine ⟨root, hroot, qualified, members, hbase ▸ hdeclared, ?_⟩
    unfold constantBlock
    rw [← hentries]

/-- The constants of a file go by the name of their block and the keys of an enumeration, less a bare identifier in
front. So no two of them share a name just when the keys of each block stay distinct without it, and no block runs
into another. -/
theorem generate_constants (r : Request) (g : Generated) (h : r.generate = .ok g) :
    (∀ c ∈ g.artifacts.constants, ∃ root ∈ r.model, ∃ qualified members,
      .constants qualified c.base members ∈ root.2.declarations ∧
      c = constantBlock c.name qualified c.base members ∧
      c.suffixes = members.map fun m => Pass.suffix (QualifiedName.bare qualified) m.key) ∧
    (g.artifacts.constantNames.Nodup ↔
      (∀ c ∈ g.artifacts.constants, c.suffixes.Nodup) ∧
        ∀ c ∈ g.artifacts.constants, ∀ d ∈ g.artifacts.constants, ¬c.Runs d) := by
  obtain ⟨p, hrun, hartifacts⟩ := exists_run_of_generate h
  have hmembers : ∀ c ∈ g.artifacts.constants, ∃ root ∈ r.model, ∃ qualified members,
      .constants qualified c.base members ∈ root.2.declarations ∧
      c = constantBlock c.name qualified c.base members := by
    intro c hc
    rw [hartifacts] at hc
    exact Pass.exists_members hrun (mem_sortBy.mp hc)
  constructor
  · intro c hc
    obtain ⟨root, hroot, qualified, members, hdeclared, hblock⟩ := hmembers c hc
    refine ⟨root, hroot, qualified, members, hdeclared, hblock, ?_⟩
    rw [hblock]
    exact suffixes_constantBlock c.name qualified c.base members
  · refine Artifacts.nodup_constantNames_iff ?_ ?_
    · have hdistinct := (run_underWay hrun).complete.distinct
      have hnames := (List.nodup_append.mp hdistinct).2.1
      rw [hartifacts]
      exact ((sortBy_perm _ _).map _).nodup_iff.mpr hnames
    · intro c hc
      obtain ⟨root, -, qualified, members, -, hblock⟩ := hmembers c hc
      rw [hblock]
      exact leads_constantBlock c.name qualified c.base members

/-- Two enumerations, where the name of one goes on from the name of the other. -/
def stateRequest (keys : List String) : Request where
  model := [
    ("p.State", .string "p.State" (keys.map fun key => ⟨key, key⟩)),
    ("p.StateCode", .string "p.StateCode" [⟨"Ok", "fine"⟩])]
  hook := .none
  reserve := []
  config := .default

theorem generate_constants_apart :
    ∃ g, (stateRequest ["StateOn", "CodeBad"]).generate = .ok g ∧
      g.artifacts.constantNames = ["StateOn", "StateCodeBad", "StateCodeOk"] ∧
      ∀ c ∈ g.artifacts.constants, ∀ d ∈ g.artifacts.constants, ¬c.Runs d := by
  have h : (stateRequest ["StateOn", "CodeBad"]).generate.toOption.map (·.artifacts.constantNames) =
      some ["StateOn", "StateCodeBad", "StateCodeOk"] := by decide +kernel
  obtain ⟨g, hg, hnames⟩ := exists_generate_of_map h
  have hnodup : g.artifacts.constantNames.Nodup := by
    rw [hnames]
    decide
  exact ⟨g, hg, hnames, ((generate_constants _ g hg).2.mp hnodup).2⟩

/-- A key with the identifier in front and without it, and a block that runs into another. -/
theorem generate_repeats_constants :
    (stateRequest ["CodeOk", "StateCodeOk"]).model.Loadable ∧
      ∃ g, (stateRequest ["CodeOk", "StateCodeOk"]).generate = .ok g ∧
        g.artifacts.constantNames = ["StateCodeOk", "StateCodeOk", "StateCodeOk"] ∧
        ¬g.artifacts.constantNames.Nodup := by
  refine ⟨⟨by unfold Model.Distinct; decide, by decide +kernel⟩, ?_⟩
  have h : (stateRequest ["CodeOk", "StateCodeOk"]).generate.toOption.map (·.artifacts.constantNames) =
      some ["StateCodeOk", "StateCodeOk", "StateCodeOk"] := by decide +kernel
  obtain ⟨g, hg, hnames⟩ := exists_generate_of_map h
  refine ⟨g, hg, hnames, ?_⟩
  rw [hnames]
  decide

end Declgen
