import Declgen.Proofs.Pass.Outcome

/-!
# Names that cannot be written

A pass asks for names of what its model names, and of parts of what is named already. So a generated name that is no
identifier goes back to a qualified name or to the key of a root whose own identifier is none.
-/

namespace Declgen

open Source (isIdentifier)

theorem isIdentifier_of_run {m : Model} {hook : Hook} {prereserved : List String} {tries : Nat} {p : Pass}
    (hsources : ∀ q ∈ m.sources, isIdentifier (QualifiedName.bare q) = true)
    (h : Pass.run m hook prereserved tries = some p) {name : String} (hname : name ∈ p.found.sorted.names) :
    isIdentifier name = true := by
  obtain ⟨log, horderly⟩ := run_orderly h
  have htidy := horderly.history.tidy horderly.nested fun e he q hq => hsources q (horderly.sources e he hq)
  have hreserved := (run_underWay h).complete.handedOut.subset (Artifacts.mem_names_sorted.mp hname)
  exact htidy.identifier name hreserved

/-! ## Faults of generated names -/

/-- An identifier of this role is a generated name. -/
def Role.isGenerated : Role → Bool
  | .struct | .constantBlock | .reference => true
  | .importAlias | .constant | .field _ _ => false

section Faults

variable {name : String} {role : Role}

theorem invalidIdentifier_not_mem_outsideFaults (name : String) (role : Role) (text : String) :
    .invalidIdentifier name role ∉ outsideFaults text := by
  unfold outsideFaults
  split <;> simp

theorem mem_nameFaults_iff {other : String} {role' : Role} :
    .invalidIdentifier name role ∈ nameFaults other role' ↔
      isIdentifier name = false ∧ name = other ∧ role = role' := by
  rw [mem_nameFaults, RenderFault.invalidIdentifier.injEq]
  constructor
  · rintro ⟨hbad, rfl, rfl⟩
    exact ⟨hbad, rfl, rfl⟩
  · rintro ⟨hbad, rfl, rfl⟩
    exact ⟨hbad, rfl, rfl⟩

theorem mentioned_of_mem_faults {t : TypeExpr} (h : .invalidIdentifier name role ∈ t.faults)
    (hrole : role.isGenerated = true) :
    isIdentifier name = false ∧ (.struct name ∈ t.parts ∨ .typeAlias name ∈ t.parts) := by
  rw [t.faults_eq_flatMap_parts] at h
  obtain ⟨part, hpart, hfault⟩ := List.mem_flatMap.mp h
  cases part with
  | struct other =>
    obtain ⟨hbad, rfl, -⟩ := mem_nameFaults_iff.mp hfault
    exact ⟨hbad, .inl hpart⟩
  | typeAlias other =>
    obtain ⟨hbad, rfl, -⟩ := mem_nameFaults_iff.mp hfault
    exact ⟨hbad, .inr hpart⟩
  | external importAlias text =>
    cases importAlias with
    | none => exact absurd hfault (invalidIdentifier_not_mem_outsideFaults name role text)
    | some a =>
      rcases List.mem_append.mp hfault with htext | halias
      · exact absurd htext (invalidIdentifier_not_mem_outsideFaults name role text)
      · obtain ⟨-, -, rfl⟩ := mem_nameFaults_iff.mp halias
        simp [Role.isGenerated] at hrole
  | _ => simp [TypeExpr.ownFaults, TypeExpr.faults] at hfault

namespace Artifacts

variable {a : Artifacts} {config : Config}

theorem name_of_block_fault {c : ConstantArtifact} (hc : c ∈ a.constants)
    (h : .invalidIdentifier name role ∈ c.faults) (hrole : role.isGenerated = true) :
    isIdentifier name = false ∧ name ∈ a.names := by
  rcases List.mem_append.mp h with h | h
  · obtain ⟨hbad, rfl, -⟩ := mem_nameFaults_iff.mp h
    exact ⟨hbad, List.mem_append_right _ (List.mem_map_of_mem hc)⟩
  · obtain ⟨e, -, h⟩ := List.mem_flatMap.mp h
    rcases List.mem_append.mp h with h | h
    · obtain ⟨-, -, rfl⟩ := mem_nameFaults_iff.mp h
      simp [Role.isGenerated] at hrole
    · split at h <;> simp at h

theorem name_of_object_fault {o : ObjectArtifact} (ho : o ∈ a.objects)
    (hmentioned : ∀ t ∈ a.fieldTypes, ∀ name, .struct name ∈ t.parts ∨ .typeAlias name ∈ t.parts → name ∈ a.names)
    (h : .invalidIdentifier name role ∈ o.faults) (hrole : role.isGenerated = true) :
    isIdentifier name = false ∧ name ∈ a.names := by
  rcases List.mem_append.mp h with h | h
  · obtain ⟨hbad, rfl, -⟩ := mem_nameFaults_iff.mp h
    exact ⟨hbad, List.mem_append_left _ (List.mem_map_of_mem ho)⟩
  · obtain ⟨⟨f, identifier⟩, hf, h⟩ := List.mem_flatMap.mp h
    rcases List.mem_append.mp h with h | h
    · obtain ⟨-, -, rfl⟩ := mem_nameFaults_iff.mp h
      simp [Role.isGenerated] at hrole
    · have htype : f.type ∈ a.fieldTypes :=
        List.mem_flatMap.mpr ⟨o, ho, List.mem_map_of_mem (List.of_mem_zip hf).1⟩
      obtain ⟨hbad, hparts⟩ := mentioned_of_mem_faults h hrole
      exact ⟨hbad, hmentioned _ htype name hparts⟩

theorem name_of_mem_faults
    (hmentioned : ∀ t ∈ a.fieldTypes, ∀ name, .struct name ∈ t.parts ∨ .typeAlias name ∈ t.parts → name ∈ a.names)
    (h : .invalidIdentifier name role ∈ a.faults config) (hrole : role.isGenerated = true) :
    isIdentifier name = false ∧ name ∈ a.names := by
  unfold faults at h
  rw [List.mem_append, List.mem_append, List.mem_append] at h
  rcases h with h | h | h | h
  · obtain ⟨i, -, h⟩ := List.mem_flatMap.mp h
    rcases List.mem_append.mp h with h | h
    · exact absurd h (invalidIdentifier_not_mem_outsideFaults name role i.path)
    · obtain ⟨-, -, rfl⟩ := mem_nameFaults_iff.mp h
      simp [Role.isGenerated] at hrole
  · obtain ⟨c, hc, h⟩ := List.mem_flatMap.mp h
    exact name_of_block_fault hc h hrole
  · obtain ⟨d, -, h⟩ := List.mem_flatMap.mp h
    split at h <;> simp at h
  · obtain ⟨o, ho, h⟩ := List.mem_flatMap.mp h
    exact name_of_object_fault ho hmentioned h hrole

end Artifacts

theorem exists_run_of_unrendered {r : Request} {fault : RenderFault} (h : r.generate = .error (.unrendered fault)) :
    ∃ p, Pass.run r.model r.hook r.reserve Allocator.defaultTries = some p ∧
      fault ∈ p.found.sorted.faults r.config := by
  unfold Request.generate at h
  split at h
  · simp at h
  · rename_i p hrun
    refine ⟨p, hrun, ?_⟩
    have htokens : Render.fileTokens r.config p.found.sorted = .error fault := by
      dsimp only [Render.file] at h
      split at h
      · rename_i found hfound
        obtain rfl : found = fault := by simpa using h
        exact hfound
      · split at h <;> simp at h
    have hfirst := (Render.fileTokens_stopsAt r.config p.found.sorted).error_iff.mp htokens
    exact List.mem_of_head? hfirst

end Faults

/-! ## The laws -/

/-- Where all that calls go by have identifiers, identifiers are all that comes out, whatever is called in whatever
order. So a generated name that cannot be written is the fault of a name in the model. -/
theorem names_stay_identifiers :
    (∀ prereserved tries log a, Allocator.History prereserved tries log a → Allocator.Nested log →
      (∀ e ∈ log, ∀ q ∈ e.call.sources, isIdentifier (QualifiedName.bare q) = true) →
      ∀ e ∈ log, isIdentifier e.name = true) ∧
    ∀ (r : Request) name role, r.generate = .error (.unrendered (.invalidIdentifier name role)) →
      role.isGenerated = true → ∃ q ∈ r.model.sources, isIdentifier (QualifiedName.bare q) = false := by
  constructor
  · intro prereserved tries log a hlog hnested hsources e he
    have htidy := hlog.tidy hnested hsources
    exact htidy.identifier e.name ((hlog.mem_reserved_iff e.name).mpr ⟨e, he, rfl⟩)
  · intro r name role hgenerate hrole
    obtain ⟨p, hrun, hfault⟩ := exists_run_of_unrendered hgenerate
    obtain ⟨hbad, hname⟩ := Artifacts.name_of_mem_faults (run_mentioned hrun) hfault hrole
    by_contra hall
    have hsources : ∀ q ∈ r.model.sources, isIdentifier (QualifiedName.bare q) = true := by
      simpa only [not_exists, not_and, Bool.not_eq_false] using hall
    rw [isIdentifier_of_run hsources hrun hname] at hbad
    simp at hbad

/-- The key of the root starts with a digit, and the keys of its map are named after it. -/
def digitRequest : Request where
  model := [("p.2D", .map (.object "" []) .any)]
  hook := .none
  reserve := []
  config := .default

/-- The identifier of `a.Item` is bound elsewhere, and what comes out for it is the parent of the next, and so on. -/
theorem names_stay_identifiers_nested :
    (∃ log a, Allocator.History ["other.Item"] 1 log a ∧ Allocator.Nested log ∧
      log.map (·.name) = ["Item_dbce", "Item_dbceInline007Key", "Item_dbceInline007KeyInline1000", "typeKey"] ∧
      ∀ e ∈ log, isIdentifier e.name = true) ∧
    digitRequest.generate = .error (.unrendered (.invalidIdentifier "2DKey" .struct)) ∧
    ∃ q ∈ digitRequest.model.sources, isIdentifier (QualifiedName.bare q) = false := by
  have hgenerate : digitRequest.generate = .error (.unrendered (.invalidIdentifier "2DKey" .struct)) := by
    decide +kernel
  refine ⟨?_, hgenerate, names_stay_identifiers.2 _ _ _ hgenerate rfl⟩
  let start := Allocator.new ["other.Item"] 1
  let first := start.handOut (some "a.Item") "Item_dbce"
  let second := first.handOut none "Item_dbceInline007Key"
  let third := second.handOut none "Item_dbceInline007KeyInline1000"
  have h1 : start.answer (.named "a.Item") = some ("Item_dbce", first) := by decide +kernel
  have h2 : first.answer (.inline "Item_dbce" 7 .mapKey) = some ("Item_dbceInline007Key", second) := by decide +kernel
  have h3 : second.answer (.allocate "" (.field "Item_dbceInline007Key" 1000 .value)) =
      some ("Item_dbceInline007KeyInline1000", third) := by
    decide +kernel
  have h4 : third.answer (.allocate "" (.root "z.type" .mapKey)) = some ("typeKey", third.handOut none "typeKey") := by
    decide +kernel
  obtain ⟨log, a, hlog, hnested, hnames, hsources⟩ : ∃ log a, Allocator.History ["other.Item"] 1 log a ∧
      Allocator.Nested log ∧
      log.map (·.name) = ["Item_dbce", "Item_dbceInline007Key", "Item_dbceInline007KeyInline1000", "typeKey"] ∧
      ∀ e ∈ log, ∀ q ∈ e.call.sources, isIdentifier (QualifiedName.bare q) = true := by
    refine ⟨_, _, .call (.call (.call (.call .start h1) h2) h3) h4, ?_, rfl, ?_⟩
    · rw [Allocator.nested_concat_iff, Allocator.nested_concat_iff, Allocator.nested_concat_iff,
        Allocator.nested_concat_iff]
      simp [Allocator.nested_nil, Allocator.Answer.of, Allocator.Call.parent?, Context.parent?]
    · decide +kernel
  exact ⟨log, a, hlog, hnested, hnames, names_stay_identifiers.1 _ _ _ _ hlog hnested hsources⟩

end Declgen
