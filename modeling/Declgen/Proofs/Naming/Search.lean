import Declgen.Proofs.Naming.Identifiers
import Declgen.Proofs.Naming.Ownership
import Mathlib.Algebra.Group.Nat.Defs
import Mathlib.Data.List.Nodup
import Mathlib.Data.List.Perm.Subperm

/-!
# Searches for a free name

A call whose base is refused searches for a suffix that makes a free name of it. Attempts are counted in 32 bits. Where
an overflow is noticed the last number is the last attempt, and where it is not the counter goes on with the least
number. Either way all that is tried is one of the suffixed names that there are of a base.
-/

namespace Declgen.Allocator

variable {a b : Allocator} {call : Call} {base seed name : String}

/-! ## Calls that search -/

/-- The base and the seed of the search that a call comes to, if it comes to one. -/
def search? (a : Allocator) (call : Call) : Option (String × String) :=
  match call.subject? a with
  | some q => if (a.lookup? q).isNone && a.isClaimed q then some (QualifiedName.bare q, q) else none
  | none => if a.isTaken call.candidate then some (call.candidate, call.seed) else none

theorem answer_isSome_of_search? (h : a.search? call = none) : (a.answer call).isSome = true := by
  rw [answer_eq]
  unfold search? at h
  cases hsubject : call.subject? a with
  | some q =>
    rw [hsubject] at h
    cases hlookup : a.lookup? q with
    | some known => simp [named_of_known hlookup]
    | none =>
      have hfree : a.isClaimed q = false := by simpa [hlookup] using h
      simp [named_of_unknown hlookup, hfree]
  | none =>
    rw [hsubject] at h
    have hfree : a.isTaken call.candidate = false := by simpa using h
    simp [synthetic_eq, hfree]

theorem answer_eq_none_iff_suffixed (h : a.search? call = some (base, seed)) :
    a.answer call = none ↔ a.suffixed base seed = none := by
  rw [answer_eq]
  unfold search? at h
  cases hsubject : call.subject? a with
  | some q =>
    rw [hsubject] at h
    obtain ⟨hsearch, hpair⟩ := Option.ite_none_right_eq_some.mp h
    obtain ⟨rfl, rfl⟩ := Prod.mk.inj (Option.some.inj hpair)
    obtain ⟨hnew, hclaimed⟩ := Bool.and_eq_true_iff.mp hsearch
    rw [Option.elim_some, named_of_unknown (Option.isNone_iff_eq_none.mp hnew), if_pos hclaimed, Option.map_eq_none_iff]
  | none =>
    rw [hsubject] at h
    obtain ⟨htaken, hpair⟩ := Option.ite_none_right_eq_some.mp h
    obtain ⟨rfl, rfl⟩ := Prod.mk.inj (Option.some.inj hpair)
    rw [Option.elim_none, synthetic_eq, if_pos htaken, Option.map_eq_none_iff]

theorem suffixed_eq_none_iff : a.suffixed base seed = none ↔
    ∀ attempt, 0 < attempt → attempt ≤ a.tries → a.isTaken (suffixedName base seed attempt) = true := by
  rw [suffixed, findSuffixed_eq_none_iff]
  constructor
  · intro htaken attempt hpos hle
    have hname := htaken (attempt - 1) (by omega)
    rwa [Nat.add_sub_cancel' hpos] at hname
  · exact fun htaken k hk => htaken (1 + k) (by omega) (by omega)

theorem answer_eq_none_iff : a.answer call = none ↔ ∃ base seed, a.search? call = some (base, seed) ∧
    ∀ attempt, 0 < attempt → attempt ≤ a.tries → a.isTaken (suffixedName base seed attempt) = true := by
  cases hsearch : a.search? call with
  | none =>
    have hsome := answer_isSome_of_search? hsearch
    simp [Option.isSome_iff_ne_none.mp hsome]
  | some found =>
    obtain ⟨base, seed⟩ := found
    rw [answer_eq_none_iff_suffixed hsearch, suffixed_eq_none_iff]
    simp

/-! ## A counter that wraps around -/

/-- The search where an overflow of the counter goes unnoticed, as far as it comes in some number of rounds. -/
def findWrapping (a : Allocator) (base seed : String) : Nat → Int32 → String → Option String
  | 0, _, _ => none
  | rounds + 1, attempt, salt =>
    let name := base ++ "_" ++ Digest.short salt suffixLength
    if a.isTaken name then findWrapping a base seed rounds (attempt + 1) (seed ++ "#" ++ toString (attempt + 1))
    else some name

theorem findWrapping_succ_eq_none_iff {rounds : Nat} {attempt : Int32} {salt : String} :
    a.findWrapping base seed (rounds + 1) attempt salt = none ↔
      a.isTaken (base ++ "_" ++ Digest.short salt suffixLength) = true ∧
        a.findWrapping base seed rounds (attempt + 1) (seed ++ "#" ++ toString (attempt + 1)) = none := by
  rw [findWrapping]
  split <;> simp_all

theorem findWrapping_eq_none_iff : (∀ rounds, a.findWrapping base seed rounds 1 seed = none) ↔
    a.isTaken (base ++ "_" ++ Digest.short seed suffixLength) = true ∧ ∀ attempt : Int32,
      a.isTaken (base ++ "_" ++ Digest.short (seed ++ "#" ++ toString attempt) suffixLength) = true := by
  constructor
  · intro h
    have hround (n : Nat) : ∀ rounds, a.findWrapping base seed rounds (Int32.ofNat n + 1 + 1)
        (seed ++ "#" ++ toString (Int32.ofNat n + 1 + 1)) = none := by
      induction n with
      | zero => exact fun rounds => (findWrapping_succ_eq_none_iff.mp (h (rounds + 1))).2
      | succ n ih =>
        have hnext : Int32.ofNat (n + 1) = Int32.ofNat n + 1 := Int32.ofNat_add n 1
        rw [hnext]
        exact fun rounds => (findWrapping_succ_eq_none_iff.mp (ih (rounds + 1))).2
    refine ⟨(findWrapping_succ_eq_none_iff.mp (h 1)).1, fun attempt => ?_⟩
    have hreached : Int32.ofNat (attempt - 1 - 1).toBitVec.toNat + 1 + 1 = attempt := by
      rw [Int32.ofNat_bitVecToNat, Int32.ofBitVec_toBitVec, Int32.sub_add_cancel, Int32.sub_add_cancel]
    have hnone := hround (attempt - 1 - 1).toBitVec.toNat 1
    rw [hreached] at hnone
    exact (findWrapping_succ_eq_none_iff.mp hnone).1
  · rintro ⟨hfirst, htaken⟩ rounds
    have hlater (rounds : Nat) (attempt : Int32) :
        a.findWrapping base seed rounds attempt (seed ++ "#" ++ toString attempt) = none := by
      induction rounds generalizing attempt with
      | zero => rfl
      | succ rounds ih => exact findWrapping_succ_eq_none_iff.mpr ⟨htaken attempt, ih _⟩
    cases rounds with
    | zero => rfl
    | succ rounds => exact findWrapping_succ_eq_none_iff.mpr ⟨hfirst, hlater rounds _⟩

theorem toString_ofNat {n : Nat} (h : n < 2 ^ 31) : toString (Int32.ofNat n) = toString n := by
  change toString (Int32.ofNat n).toInt = toString n
  rw [Int32.toInt_ofNat_of_lt h]
  rfl

/-- Up to the overflow both searches are one. -/
theorem findWrapping_eq {tries attempt : Nat} (hpos : 0 < attempt) (hle : attempt + tries ≤ 2 ^ 31) :
    a.findWrapping base seed tries (Int32.ofNat attempt) (salted seed attempt) =
      a.findSuffixed base seed tries attempt := by
  induction tries generalizing attempt with
  | zero => rfl
  | succ tries ih =>
    refine if_congr Iff.rfl ?_ rfl
    cases tries with
    | zero => rfl
    | succ tries =>
      have hnext : Int32.ofNat attempt + 1 = Int32.ofNat (attempt + 1) := (Int32.ofNat_add attempt 1).symm
      have hsalt : seed ++ "#" ++ toString (Int32.ofNat (attempt + 1)) = salted seed (attempt + 1) := by
        rw [toString_ofNat (by omega), salted, if_neg (by omega)]
      rw [hnext, hsalt]
      exact ih (by omega) (by omega)

/-! ## Suffixes run out -/

/-- All suffixed names that there are of a base. -/
def suffixedNames (base : String) : List String :=
  (Digest.texts suffixLength).map fun digits => base ++ "_" ++ String.ofList digits

theorem mem_suffixedNames (base salt : String) :
    base ++ "_" ++ Digest.short salt suffixLength ∈ suffixedNames base := by
  refine List.mem_map.mpr ⟨_, Digest.short_mem_texts salt (n := suffixLength) (by decide), ?_⟩
  rw [String.ofList_toList]

theorem suffixedName_mem (base seed : String) (attempt : Nat) :
    suffixedName base seed attempt ∈ suffixedNames base :=
  mem_suffixedNames base (salted seed attempt)

theorem length_suffixedNames (base : String) : (suffixedNames base).length = 65536 := by
  have htexts (n : Nat) : (Digest.texts n).length = 16 ^ n := by
    induction n with
    | zero => rfl
    | succ n ih => simp [Digest.texts, List.length_flatMap, ih, Nat.pow_succ]
  rw [suffixedNames, List.length_map, htexts]
  rfl

theorem answer_eq_none_of_crowded (h : a.search? call = some (base, seed))
    (hcrowd : ∀ name ∈ suffixedNames base, a.isTaken name = true) :
    a.answer call = none ∧ ∀ rounds, a.findWrapping base seed rounds 1 seed = none := by
  refine ⟨answer_eq_none_iff.mpr ⟨base, seed, h, fun attempt _ _ => hcrowd _ (suffixedName_mem base seed attempt)⟩, ?_⟩
  exact findWrapping_eq_none_iff.mpr ⟨hcrowd _ (mem_suffixedNames base _), fun _ => hcrowd _ (mem_suffixedNames base _)⟩

theorem answer_ne_none_of_lt {tried : List String} (h : a.search? call = some (base, seed)) (hdistinct : tried.Nodup)
    (htried : ∀ name ∈ tried, ∃ attempt, 0 < attempt ∧ attempt ≤ a.tries ∧ suffixedName base seed attempt = name)
    (hroom : (suffixedNames base).countP a.isTaken < tried.length) : a.answer call ≠ none := by
  -- Otherwise the names that are tried would all be taken suffixed names, and there are too few of these.
  intro hnone
  have htaken := suffixed_eq_none_iff.mp ((answer_eq_none_iff_suffixed h).mp hnone)
  have hsubset : tried ⊆ (suffixedNames base).filter a.isTaken := by
    intro name hname
    obtain ⟨attempt, hpos, hle, rfl⟩ := htried name hname
    exact List.mem_filter.mpr ⟨suffixedName_mem base seed attempt, htaken attempt hpos hle⟩
  have hle := (hdistinct.subperm hsubset).length_le
  rw [← List.countP_eq_length_filter] at hle
  omega

/-! ## Identifiers run out -/

/-- The names that a qualified name can get: its identifier and the suffixed names of that. -/
def candidates (identifier : String) : List String := identifier :: suffixedNames identifier

def Spelled (a : Allocator) : Prop :=
  ∀ q name, a.lookup? q = some name → name ∈ candidates (QualifiedName.bare q)

theorem mem_suffixedNames_of_suffixed (h : a.suffixed base seed = some name) : name ∈ suffixedNames base := by
  obtain ⟨k, rfl⟩ := exists_attempt_of_findSuffixed h
  exact suffixedName_mem base seed k

theorem Spelled.answer (ha : a.Spelled) (h : a.answer call = some (name, b)) : b.Spelled := by
  rcases named_or_synthetic h with ⟨q, -, hnamed⟩ | ⟨-, candidate, seed, hsynthetic⟩
  · cases hlookup : a.lookup? q with
    | some known =>
      rw [named_of_known hlookup] at hnamed
      obtain ⟨-, rfl⟩ := Prod.mk.inj (Option.some.inj hnamed)
      exact ha
    | none =>
      -- The one name that is new is the identifier itself or was found among its suffixed names.
      obtain ⟨hchosen, rfl⟩ := chosen_of_named hlookup hnamed
      intro r other hother
      rw [lookup?_handOut_some] at hother
      split at hother
      · rename_i hr
        obtain rfl := Option.some.inj hother
        rw [hr]
        cases hchosen with
        | suffixed _ hsuffixed => exact List.mem_cons_of_mem _ (mem_suffixedNames_of_suffixed hsuffixed)
        | own _ hname =>
          rw [hname]
          exact List.mem_cons_self
      · exact ha r other hother
  · obtain ⟨-, rfl⟩ := chosen_of_synthetic hsynthetic
    exact ha

theorem History.spelled {prereserved : List String} {tries : Nat} {log : List Answer}
    (h : History prereserved tries log a) : a.Spelled := by
  induction h with
  | start => exact fun _ _ hlookup => by simp [new, lookup?] at hlookup
  | call _ hcall ih => exact ih.answer hcall

theorem History.length_le {prereserved : List String} {tries : Nat} {log : List Answer} {qs : List String}
    {identifier : String} (h : History prereserved tries log a) (hdistinct : qs.Nodup)
    (hqs : ∀ q ∈ qs, QualifiedName.bare q = identifier ∧ (a.lookup? q).isSome = true) : qs.length ≤ 65537 := by
  let nameOf (q : String) : String := (a.lookup? q).getD ""
  have hname : ∀ q ∈ qs, a.lookup? q = some (nameOf q) := by
    intro q hq
    obtain ⟨name, hlookup⟩ := Option.isSome_iff_exists.mp (hqs q hq).2
    simp [nameOf, hlookup]
  have hnames : (qs.map nameOf).Nodup := by
    refine List.Nodup.map_on (fun q hq r hr heq => ?_) hdistinct
    exact h.sound.injective (hname q hq) (heq ▸ hname r hr)
  have hsubset : qs.map nameOf ⊆ candidates identifier := by
    intro name hmem
    obtain ⟨q, hq, rfl⟩ := List.mem_map.mp hmem
    rw [← (hqs q hq).1]
    exact h.spelled q _ (hname q hq)
  have hle := (hnames.subperm hsubset).length_le
  rwa [List.length_map, candidates, List.length_cons, length_suffixedNames] at hle

end Declgen.Allocator
