import Declgen.Override
import Declgen.Proofs.Pass.Visits

/-!
# The survey of a model

A tour walks over nodes as a pass does and stops at what the hook answers and at the declarations that are to be
generated; the survey of a model is the declarations among its stops. A tour knows nothing of names that are handed out
or of artifacts: all it keeps is which qualified names have been claimed.
-/

namespace Declgen

/-! ## Weight -/

mutual
/-- The number of nodes in a node. -/
def Node.weight : Node → Nat
  | .array inner | .nullable inner => weight inner + 1
  | .map key value => weight key + weight value + 1
  | .object _ entries => weightOfEntries entries + 1
  | .string _ _ | .number _ _ _ | .boolean | .date | .any => 1

def Node.weightOfEntries : List (Entry Node) → Nat
  | [] => 0
  | e :: rest => weight e.type + weightOfEntries rest
end

theorem Node.weightOfEntries_perm {es fs : List (Entry Node)} (h : es.Perm fs) :
    weightOfEntries es = weightOfEntries fs := by
  induction h with
  | nil => rfl
  | cons e _ ih => simp only [weightOfEntries, ih]
  | swap e f rest =>
    simp only [weightOfEntries]
    omega
  | trans _ _ ihef ihfg => exact ihef.trans ihfg

theorem Node.weight_pos (node : Node) : 0 < node.weight := by
  cases node <;> simp [weight]

/-! ## Spots -/

/-- A node to be visited. It stands for the root `root?` if it is the value of that root, or an element or a
map value of what stands for it. -/
structure Spot where
  root? : Option String
  node : Node

namespace Spot

def weight : List Spot → Nat
  | [] => 0
  | s :: rest => s.node.weight + weight rest

/-- The spots right below a node, in the order of their visits: a key before its value, fields by name. -/
def below (s : Spot) : List Spot :=
  match s.node with
  | .array inner | .nullable inner => [⟨s.root?, inner⟩]
  | .map key value => [⟨none, key⟩, ⟨s.root?, value⟩]
  | .object _ entries => (sortBy (·.name) entries).map fun e => ⟨none, e.type⟩
  | .string _ _ | .number _ _ _ | .boolean | .date | .any => []

@[simp] theorem weight_cons (s : Spot) (rest : List Spot) : weight (s :: rest) = s.node.weight + weight rest :=
  rfl

@[simp] theorem weight_append (spots rest : List Spot) : weight (spots ++ rest) = weight spots + weight rest := by
  induction spots with
  | nil => simp [weight]
  | cons s spots ih => simp [ih, Nat.add_assoc]

theorem weight_fields (entries : List (Entry Node)) :
    weight (entries.map fun e => ⟨none, e.type⟩) = Node.weightOfEntries entries := by
  induction entries with
  | nil => rfl
  | cons e rest ih => simp [Node.weightOfEntries, ih]

theorem weight_below (s : Spot) : weight s.below < s.node.weight := by
  obtain ⟨root?, node⟩ := s
  cases node with
  | object name entries =>
    have hsorted := Node.weightOfEntries_perm (sortBy_perm (·.name) entries)
    simp only [below, weight_fields, hsorted, Node.weight]
    omega
  | _ => simp [below, weight, Node.weight]

theorem weight_rest_lt (s : Spot) (rest : List Spot) : weight rest < weight (s :: rest) := by
  have hpos := s.node.weight_pos
  rw [weight_cons]
  omega

theorem weight_below_lt (s : Spot) (rest : List Spot) : weight (s.below ++ rest) < weight (s :: rest) := by
  have hbelow := s.weight_below
  rw [weight_cons, weight_append]
  omega

end Spot

/-! ## Findings -/

/-- A declaration to be generated. -/
structure Finding where
  /-- The qualified name that it claims, as the first to do so. -/
  claim? : Option String
  declaration : Declaration

/-- A declaration claims the name it carries. Without one it claims the root it stands for, unless something
else has claimed that. -/
def Declaration.claim? (d : Declaration) (root? : Option String) (claimed : List String) : Option String :=
  if d.qualified ≠ "" then some d.qualified else root?.filter fun key => key ∉ claimed

/-- Where a tour stops. -/
inductive Stop where
  /-- The hook answers a node. -/
  | answer (type : ExternalType)
  | finding (f : Finding)

def Stop.answer? : Stop → Option ExternalType
  | .answer type => some type
  | .finding _ => none

def Stop.finding? : Stop → Option Finding
  | .answer _ => none
  | .finding f => some f

/-- The stops in `spots` and below them, in pre-order, where the names `claimed` have been claimed. Nothing is
visited below what the hook answers, nor below a declaration whose name has been claimed. -/
def tour (hook : Hook) (spots : List Spot) (claimed : List String) : List Stop :=
  match spots with
  | [] => []
  | s :: rest =>
    match hook s.node with
    | some type => .answer type :: tour hook rest claimed
    | none =>
      match s.node.declaration? with
      | none => tour hook (s.below ++ rest) claimed
      | some d =>
        if d.qualified ≠ "" ∧ d.qualified ∈ claimed then tour hook rest claimed
        else
          .finding ⟨d.claim? s.root? claimed, d⟩ ::
            tour hook (s.below ++ rest) (claimed ++ (d.claim? s.root? claimed).toList)
termination_by Spot.weight spots
decreasing_by
  · exact s.weight_rest_lt rest
  · exact s.weight_below_lt rest
  · exact s.weight_rest_lt rest
  · exact s.weight_below_lt rest

/-- The declarations that a tour comes to. -/
def survey (hook : Hook) (spots : List Spot) (claimed : List String) : List Finding :=
  (tour hook spots claimed).filterMap Stop.finding?

/-- What the hook answers on a tour. -/
def answers (hook : Hook) (spots : List Spot) (claimed : List String) : List ExternalType :=
  (tour hook spots claimed).filterMap Stop.answer?

def claims (findings : List Finding) : List String := findings.filterMap (·.claim?)

@[simp] theorem claims_nil : claims [] = [] := rfl

@[simp] theorem claims_cons (f : Finding) (rest : List Finding) :
    claims (f :: rest) = f.claim?.toList ++ claims rest := by
  cases h : f.claim? <;> simp [claims, h]

@[simp] theorem claims_append (findings rest : List Finding) :
    claims (findings ++ rest) = claims findings ++ claims rest :=
  List.filterMap_append

theorem Declaration.claim?_not_mem (d : Declaration) (root? : Option String) {claimed : List String}
    (hnew : d.qualified ≠ "" → d.qualified ∉ claimed) : ∀ q ∈ d.claim? root? claimed, q ∉ claimed := by
  unfold claim?
  split
  · rename_i hne
    rintro _ ⟨⟩
    exact hnew hne
  · intro q hq
    simpa using (Option.mem_filter_iff.mp hq).2

/-- The survey of a model: its roots in the order of their names. -/
def Model.survey (m : Model) (hook : Hook) : List Finding :=
  Declgen.survey hook ((sortBy (·.1) m).map fun root => ⟨some root.1, root.2⟩) []

def Model.answers (m : Model) (hook : Hook) : List ExternalType :=
  Declgen.answers hook ((sortBy (·.1) m).map fun root => ⟨some root.1, root.2⟩) []

/-! ## Laws -/

section Laws

variable {hook : Hook} {s : Spot} {rest : List Spot} {claimed : List String}

@[simp] theorem tour_nil (hook : Hook) (claimed : List String) : tour hook [] claimed = [] := by
  rw [tour]

theorem tour_answered {type : ExternalType} (h : hook s.node = some type) :
    tour hook (s :: rest) claimed = .answer type :: tour hook rest claimed := by
  rw [tour]
  simp only [h]

theorem tour_undeclared (h : hook s.node = none) (hd : s.node.declaration? = none) :
    tour hook (s :: rest) claimed = tour hook (s.below ++ rest) claimed := by
  rw [tour]
  simp only [h, hd]

theorem tour_claimed {d : Declaration} (h : hook s.node = none) (hd : s.node.declaration? = some d)
    (hne : d.qualified ≠ "") (hclaimed : d.qualified ∈ claimed) :
    tour hook (s :: rest) claimed = tour hook rest claimed := by
  rw [tour]
  simp only [h, hd]
  exact if_pos ⟨hne, hclaimed⟩

theorem tour_new {d : Declaration} (h : hook s.node = none) (hd : s.node.declaration? = some d)
    (hnew : d.qualified ≠ "" → d.qualified ∉ claimed) :
    tour hook (s :: rest) claimed =
      .finding ⟨d.claim? s.root? claimed, d⟩ ::
        tour hook (s.below ++ rest) (claimed ++ (d.claim? s.root? claimed).toList) := by
  have hold : ¬(d.qualified ≠ "" ∧ d.qualified ∈ claimed) := fun h => hnew h.1 h.2
  rw [tour]
  simp only [h, hd]
  exact if_neg hold

theorem survey_new {d : Declaration} (h : hook s.node = none) (hd : s.node.declaration? = some d)
    (hnew : d.qualified ≠ "" → d.qualified ∉ claimed) :
    survey hook (s :: rest) claimed =
      ⟨d.claim? s.root? claimed, d⟩ ::
        survey hook (s.below ++ rest) (claimed ++ (d.claim? s.root? claimed).toList) := by
  rw [survey, tour_new h hd hnew]
  rfl

@[simp] theorem survey_nil (hook : Hook) (claimed : List String) : survey hook [] claimed = [] := by
  simp [survey]

theorem tour_append (hook : Hook) (spots rest : List Spot) (claimed : List String) :
    tour hook (spots ++ rest) claimed =
      tour hook spots claimed ++ tour hook rest (claimed ++ claims (survey hook spots claimed)) := by
  unfold survey
  fun_induction tour hook spots claimed with
  | case1 => simp
  | case2 claimed s spots type hanswered ih =>
    rw [List.cons_append, tour_answered hanswered, ih]
    rfl
  | case3 claimed s spots hdeclined hd ih =>
    rw [List.cons_append, tour_undeclared hdeclined hd, ← ih, List.append_assoc]
  | case4 claimed s spots hdeclined d hd hclaimed ih =>
    rw [List.cons_append, tour_claimed hdeclined hd hclaimed.1 hclaimed.2, ih]
  | case5 claimed s spots hdeclined d hd hclaimed ih =>
    have hnew : d.qualified ≠ "" → d.qualified ∉ claimed := fun hne hmem => hclaimed ⟨hne, hmem⟩
    rw [List.cons_append, tour_new hdeclined hd hnew, ← List.append_assoc, ih]
    simp [Stop.finding?]

theorem survey_append (hook : Hook) (spots rest : List Spot) (claimed : List String) :
    survey hook (spots ++ rest) claimed =
      survey hook spots claimed ++ survey hook rest (claimed ++ claims (survey hook spots claimed)) := by
  rw [survey, tour_append, List.filterMap_append]
  rfl

/-- What is claimed was not claimed before, and is claimed once. -/
theorem survey_claims (hook : Hook) (spots : List Spot) (claimed : List String) :
    (claims (survey hook spots claimed)).Nodup ∧ ∀ q ∈ claims (survey hook spots claimed), q ∉ claimed := by
  unfold survey
  fun_induction tour hook spots claimed with
  | case1 => simp
  | case2 claimed s spots type hanswered ih => exact ih
  | case3 claimed s spots hdeclined hd ih => exact ih
  | case4 claimed s spots hdeclined d hd hclaimed ih => exact ih
  | case5 claimed s spots hdeclined d hd hclaimed ih =>
    obtain ⟨hnodup, hfresh⟩ := ih
    have hclaim := d.claim?_not_mem s.root? fun hne hmem => hclaimed ⟨hne, hmem⟩
    rw [List.filterMap_cons_some (f := Stop.finding?) rfl, claims_cons]
    constructor
    · refine List.nodup_append.mpr ⟨?_, hnodup, ?_⟩
      · cases d.claim? s.root? claimed <;> simp
      · rintro q hq _ hr rfl
        exact hfresh q hr (List.mem_append_right _ hq)
    · intro q hq
      rcases List.mem_append.mp hq with hq | hq
      · exact hclaim q (Option.mem_toList.mp hq)
      · exact fun hmem => hfresh q hq (List.mem_append_left _ hmem)

/-- The spot is one of `spots`, or it is below one. -/
inductive Spot.Within (spots : List Spot) : Spot → Prop where
  | here {s : Spot} : s ∈ spots → Within spots s
  | inside {s t : Spot} : Within spots s → t ∈ s.below → Within spots t

theorem Spot.Within.of_step {spots : List Spot} (hspots : spots ⊆ s.below ++ rest) {t : Spot}
    (h : Spot.Within spots t) : Spot.Within (s :: rest) t := by
  induction h with
  | here ht =>
    rcases List.mem_append.mp (hspots ht) with hbelow | hrest
    · exact .inside (.here List.mem_cons_self) hbelow
    · exact .here (List.mem_cons_of_mem _ hrest)
  | inside _ ht ih => exact .inside ih ht

theorem exists_spot_of_mem_survey {spots : List Spot} {f : Finding} (h : f ∈ survey hook spots claimed) :
    ∃ s known, Spot.Within spots s ∧ hook s.node = none ∧ s.node.declaration? = some f.declaration ∧
      f.claim? = f.declaration.claim? s.root? known := by
  unfold survey at h
  fun_induction tour hook spots claimed with
  | case1 => simp at h
  | case2 claimed s spots type hanswered ih | case4 claimed s spots hdeclined d hd hclaimed ih =>
    obtain ⟨t, known, ht, hfound⟩ := ih h
    exact ⟨t, known, ht.of_step (List.subset_append_right _ _), hfound⟩
  | case3 claimed s spots hdeclined hd ih =>
    obtain ⟨t, known, ht, hfound⟩ := ih h
    exact ⟨t, known, ht.of_step (List.Subset.refl _), hfound⟩
  | case5 claimed s spots hdeclined d hd hclaimed ih =>
    rw [List.filterMap_cons_some (f := Stop.finding?) rfl] at h
    rcases List.mem_cons.mp h with rfl | h
    · exact ⟨s, claimed, .here List.mem_cons_self, hdeclined, hd, rfl⟩
    · obtain ⟨t, known, ht, hfound⟩ := ih h
      exact ⟨t, known, ht.of_step (List.Subset.refl _), hfound⟩

theorem survey_claim?_of_named (hook : Hook) (spots : List Spot) (claimed : List String) :
    ∀ f ∈ survey hook spots claimed, f.declaration.qualified ≠ "" →
      f.claim? = some f.declaration.qualified := by
  intro f hf hne
  obtain ⟨s, known, -, -, -, hclaim⟩ := exists_spot_of_mem_survey hf
  rw [hclaim]
  exact if_pos hne

end Laws

end Declgen
