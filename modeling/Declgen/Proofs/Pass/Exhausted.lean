import Declgen.Proofs.Naming.Search
import Declgen.Proofs.Pass.Outcome

/-!
# Names that run out

There are 65536 suffixed names of an identifier, so names run out where all of these are taken, be it by what is
bound elsewhere or by the declarations of a model. The search has no end there.
-/

namespace Declgen

open Allocator (History Call)

variable {hook : Hook} {prereserved : List String} {tries : Nat}

/-! ## Declarations that share an identifier -/

def Model.sharers (m : Model) (hook : Hook) (identifier : String) : List String :=
  (claims (m.survey hook)).filter fun q => QualifiedName.bare q == identifier

theorem sharers_le_of_run {model : Model} {p : Pass} (h : Pass.run model hook prereserved tries = some p)
    (identifier : String) : (model.sharers hook identifier).length ≤ 65537 := by
  obtain ⟨log, horderly⟩ := run_orderly h
  have hdistinct : (model.sharers hook identifier).Nodup := (survey_claims hook _ []).1.filter _
  have hsharers : ∀ q ∈ model.sharers hook identifier,
      QualifiedName.bare q = identifier ∧ (p.names.lookup? q).isSome = true := by
    intro q hq
    obtain ⟨hclaim, hbare⟩ := List.mem_filter.mp hq
    exact ⟨eq_of_beq hbare, ((run_gives h).1 q).mp hclaim⟩
  exact horderly.history.length_le hdistinct hsharers

/-! ## When names are given -/

theorem Request.generate_eq_noFreeName_iff (r : Request) :
    r.generate = .error .noFreeName ↔ Pass.run r.model r.hook r.reserve Allocator.defaultTries = none := by
  refine ⟨fun h => ?_, Request.generate_of_run_none⟩
  unfold Request.generate at h
  split at h
  · assumption
  · -- Once a pass has got through, what is told is of its artifacts.
    dsimp only [Render.file] at h
    split at h
    · simp at h
    · split at h <;> simp at h

/-- When the search for a name ends, and when it does not. -/
structure Endings (r : Request) : Prop where
  /-- A call has no answer just when it comes to a search and every name that is tried is taken. -/
  calls : ∀ (a : Allocator) (call : Call), a.answer call = none ↔ ∃ base seed, a.search? call = some (base, seed) ∧
    ∀ attempt, 0 < attempt → attempt ≤ a.tries → a.isTaken (Allocator.suffixedName base seed attempt) = true
  /-- Where the counter wraps around, the search is the same up to the overflow, and it is endless just when the names
  of the seed and of all its salts are taken. -/
  wraps : ∀ (a : Allocator) base seed,
    (∀ tries < 2 ^ 31, a.findWrapping base seed tries 1 seed = a.findSuffixed base seed tries 1) ∧
    ((∀ rounds, a.findWrapping base seed rounds 1 seed = none) ↔
      a.isTaken (base ++ "_" ++ Digest.short seed 4) = true ∧ ∀ attempt : Int32,
        a.isTaken (base ++ "_" ++ Digest.short (seed ++ "#" ++ toString attempt) 4) = true)
  /-- No counter helps where all suffixed names are taken. -/
  crowded : ∀ (a : Allocator) call base seed, a.search? call = some (base, seed) →
    (∀ name ∈ Allocator.suffixedNames base, a.isTaken name = true) →
    a.answer call = none ∧ ∀ rounds, a.findWrapping base seed rounds 1 seed = none
  /-- A search ends where fewer suffixed names are taken than there are among those that are tried. -/
  roomy : ∀ (a : Allocator) call base seed (tried : List String), a.search? call = some (base, seed) → tried.Nodup →
    (∀ name ∈ tried, ∃ attempt, 0 < attempt ∧ attempt ≤ a.tries ∧ Allocator.suffixedName base seed attempt = name) →
    (Allocator.suffixedNames base).countP a.isTaken < tried.length → a.answer call ≠ none
  /-- A pass has no end just where one of the calls that it makes has no answer. -/
  passes : ∀ tries, Pass.run r.model r.hook r.reserve tries = none ↔ ∃ log a call,
    Asks r.hook ((sortBy (·.1) r.model).map rootSite) (.new r.reserve tries) log a call ∧ a.answer call = none
  reached : ∀ tries log a call, Asks r.hook ((sortBy (·.1) r.model).map rootSite) (.new r.reserve tries) log a call →
    History r.reserve tries log a
  generated : r.generate = .error .noFreeName ↔ Pass.run r.model r.hook r.reserve Allocator.defaultTries = none
  shared : ∀ identifier, 65537 < (r.model.sharers r.hook identifier).length →
    ∀ tries, Pass.run r.model r.hook r.reserve tries = none

/-- A call ends unless all that it tries is taken, and a pass ends unless one of its calls does not. No pass gets
through more than 65537 declarations that share an identifier. -/
theorem naming_ends (r : Request) : Endings r where
  calls a call := Allocator.answer_eq_none_iff
  wraps a base seed := by
    refine ⟨fun tries hlt => ?_, Allocator.findWrapping_eq_none_iff⟩
    have hfits : 1 + tries ≤ 2 ^ 31 := by omega
    exact Allocator.findWrapping_eq Nat.one_pos hfits
  crowded a call base seed := Allocator.answer_eq_none_of_crowded
  roomy a call base seed tried := Allocator.answer_ne_none_of_lt
  passes tries := run_eq_none_iff
  reached := by
    rintro tries log a call ⟨s, d, rest, hwalk, -⟩
    exact hwalk.orderly_of_roots.history
  generated := r.generate_eq_noFreeName_iff
  shared identifier hmany tries := by
    cases h : Pass.run r.model r.hook r.reserve tries with
    | none => rfl
    | some p =>
      have hle := sharers_le_of_run h identifier
      omega

/-! ## Where there is no end -/

theorem search?_crowded (tries : Nat) :
    (Allocator.new crowdedRequest.reserve tries).search? (.named "p.A") = some ("A", "p.A") := by
  have hbare : QualifiedName.bare "p.A" = "A" := by decide
  have hlookup : (Allocator.new crowdedRequest.reserve tries).lookup? "p.A" = none := rfl
  simp [Allocator.search?, Call.subject?, hlookup, isClaimed_crowded, hbare]

theorem answer_crowded (tries : Nat) :
    (Allocator.new crowdedRequest.reserve tries).answer (.named "p.A") = none ∧
      ∀ rounds, (Allocator.new crowdedRequest.reserve tries).findWrapping "A" "p.A" rounds 1 "p.A" = none := by
  refine Allocator.answer_eq_none_of_crowded (search?_crowded tries) fun name hname => ?_
  obtain ⟨digits, hdigits, rfl⟩ := List.mem_map.mp hname
  exact isTaken_crowded tries hdigits

/-- As many objects as are asked for, all with the identifier `A` and each in a module of its own. -/
def sharedNames (count : Nat) : List String :=
  (List.range count).map fun i => String.ofList (List.replicate i 'p' ++ ['.', 'A'])

def sharedModel (count : Nat) : Model := (sharedNames count).map fun q => (q, .object q [])

theorem nodup_sharedNames (count : Nat) : (sharedNames count).Nodup := by
  refine List.nodup_range.map fun i j h => ?_
  have hlength := congrArg List.length (String.ofList_injective h)
  simpa using hlength

theorem bare_of_mem_sharedNames {count : Nat} {q : String} (h : q ∈ sharedNames count) :
    QualifiedName.bare q = "A" := by
  obtain ⟨i, -, rfl⟩ := List.mem_map.mp h
  simp [QualifiedName.bare, QualifiedName.bareChars, List.takeWhile]

theorem claims_of_objects {qs claimed : List String} (hdistinct : qs.Nodup) (hne : ∀ q ∈ qs, q ≠ "")
    (hfresh : ∀ q ∈ qs, q ∉ claimed) :
    claims (survey .none (qs.map fun q => ⟨some q, .object q []⟩) claimed) = qs := by
  induction qs generalizing claimed with
  | nil => simp
  | cons q rest ih =>
    obtain ⟨hq, hrest⟩ := List.nodup_cons.mp hdistinct
    obtain ⟨hqne, hrestne⟩ := List.forall_mem_cons.mp hne
    obtain ⟨hqfresh, hrestfresh⟩ := List.forall_mem_cons.mp hfresh
    have hclaim : (Declaration.object q []).claim? (some q) claimed = some q := if_pos hqne
    rw [List.map_cons, survey_new (d := .object q []) rfl rfl fun _ => hqfresh, claims_cons, hclaim]
    have hbelow : Spot.below ⟨some q, .object q []⟩ = [] := rfl
    rw [hbelow, List.nil_append, ih hrest hrestne]
    · rfl
    · intro r hr hmem
      rcases List.mem_append.mp hmem with hmem | hmem
      · exact hrestfresh r hr hmem
      · obtain rfl : q = r := by simpa [eq_comm] using hmem
        exact hq hr

theorem sharers_sharedModel (count : Nat) :
    (sharedModel count).sharers .none "A" = sortBy id (sharedNames count) := by
  have hsort : sortBy (·.1) (sharedModel count) =
      (sortBy id (sharedNames count)).map fun q => (q, Node.object q []) :=
    (@map_sortBy _ _ id (·.1) (fun q => (q, Node.object q [])) (fun _ => rfl) (sharedNames count)).symm
  have hmem : ∀ q ∈ sortBy id (sharedNames count), q ∈ sharedNames count := fun q hq => mem_sortBy.mp hq
  have hbare : ∀ q ∈ sortBy id (sharedNames count), QualifiedName.bare q = "A" :=
    fun q hq => bare_of_mem_sharedNames (hmem q hq)
  have hne : ∀ q ∈ sortBy id (sharedNames count), q ≠ "" := by
    rintro q hq rfl
    exact absurd (hbare "" hq) (by decide)
  have hdistinct : (sortBy id (sharedNames count)).Nodup :=
    (sortBy_perm id (sharedNames count)).symm.nodup (nodup_sharedNames count)
  unfold Model.sharers Model.survey
  rw [hsort, List.map_map]
  change (claims (survey .none ((sortBy id (sharedNames count)).map fun q => ⟨some q, .object q []⟩) [])).filter _ = _
  rw [claims_of_objects hdistinct hne (by simp), List.filter_eq_self]
  exact fun q hq => beq_iff_eq.mpr (hbare q hq)

/-- Names run out where all suffixed names are bound elsewhere, and where 65538 objects share an identifier. -/
theorem names_run_out :
    (∀ tries, History crowdedRequest.reserve tries [] (.new crowdedRequest.reserve tries) ∧
      (Allocator.new crowdedRequest.reserve tries).answer (.named "p.A") = none ∧
      (Allocator.new crowdedRequest.reserve tries).search? (.named "p.A") = some ("A", "p.A") ∧
      ∀ rounds, (Allocator.new crowdedRequest.reserve tries).findWrapping "A" "p.A" rounds 1 "p.A" = none) ∧
    (∀ tries, Pass.run crowdedRequest.model crowdedRequest.hook crowdedRequest.reserve tries = none) ∧
    ∀ tries, Pass.run (sharedModel 65538) .none [] tries = none := by
  refine ⟨fun tries => ?_, run_crowded, fun tries => ?_⟩
  · obtain ⟨hnone, hendless⟩ := answer_crowded tries
    exact ⟨.start, hnone, search?_crowded tries, hendless⟩
  · cases h : Pass.run (sharedModel 65538) .none [] tries with
    | none => rfl
    | some p =>
      have hle := sharers_le_of_run h "A"
      rw [sharers_sharedModel, (sortBy_perm id _).length_eq, sharedNames, List.length_map, List.length_range] at hle
      omega

end Declgen
