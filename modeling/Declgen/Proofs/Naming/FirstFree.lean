import Declgen.Proofs.Naming.Identifiers
import Declgen.Proofs.Naming.Ownership

/-!
# The first free name

A base comes out as it is unless it is refused: the identifier of a qualified name where it was handed out or is bound
to another name, a candidate for a synthetic name where it is taken at all. A base that is refused comes out with a
suffix, and of all attempts at a suffix it is the first whose name is free.
-/

namespace Declgen.Allocator

variable {prereserved : List String} {tries : Nat} {log : List Answer} {a : Allocator}
  {base seed name : String} {m n k : Nat}

/-! ## The number of tries -/

def withTries (a : Allocator) (tries : Nat) : Allocator := { a with tries }

@[simp] theorem lookup?_withTries (a : Allocator) (n : Nat) (q : String) :
    (a.withTries n).lookup? q = a.lookup? q := rfl

@[simp] theorem isTaken_withTries (a : Allocator) (n : Nat) (name : String) :
    (a.withTries n).isTaken name = a.isTaken name := rfl

@[simp] theorem isClaimed_withTries (a : Allocator) (n : Nat) (q : String) :
    (a.withTries n).isClaimed q = a.isClaimed q := rfl

/-! ## What a history has taken -/

/-- The name came out of a call, or it is bound elsewhere. -/
def Taken (prereserved : List String) (log : List Answer) (name : String) : Prop :=
  (∃ e ∈ log, e.name = name) ∨ ∃ q ∈ prereserved, QualifiedName.bare q = name

/-- The identifier of the qualified name came out of a call, or it is bound to another name. -/
def Claimed (prereserved : List String) (log : List Answer) (qualified : String) : Prop :=
  (∃ e ∈ log, e.name = QualifiedName.bare qualified) ∨ ∃ owner, IsOwner prereserved owner ∧
    QualifiedName.bare owner = QualifiedName.bare qualified ∧ owner ≠ qualified

namespace History

theorem isReserved_iff (h : History prereserved tries log a) :
    a.isReserved name = true ↔ ∃ e ∈ log, e.name = name := by
  rw [isReserved, List.contains_iff_mem, h.mem_reserved_iff]

theorem owner?_eq_some_iff (h : History prereserved tries log a) {identifier owner : String} :
    a.owner? identifier = some owner ↔ QualifiedName.bare owner = identifier ∧ IsOwner prereserved owner := by
  rw [← @Allocator.owner?_eq_some_iff prereserved tries, owner?, h.prereserved_eq]
  rfl

theorem isTaken_iff (h : History prereserved tries log a) : a.isTaken name = true ↔ Taken prereserved log name := by
  rw [isTaken, Bool.or_eq_true, h.isReserved_iff, owner?, h.prereserved_eq, List.find?_isSome]
  simp [Taken]

theorem isClaimed_iff (h : History prereserved tries log a) {q : String} :
    a.isClaimed q = true ↔ Claimed prereserved log q := by
  rw [isClaimed, Bool.or_eq_true, h.isReserved_iff, Option.any_eq_true, Claimed, or_comm]
  refine or_congr_right (exists_congr fun owner => ?_)
  rw [h.owner?_eq_some_iff, bne_iff_ne, and_comm (a := QualifiedName.bare owner = _), and_assoc]

end History

/-! ## Attempts -/

/-- The name that an attempt at a suffix comes to: four digits of the digest of the seed, salted from the second
attempt on with the number of the attempt. -/
inductive Attempt (base seed : String) : Nat → String → Prop where
  | first : Attempt base seed 1 (base ++ "_" ++ Digest.short seed 4)
  | later {k : Nat} : 2 ≤ k → Attempt base seed k (base ++ "_" ++ Digest.short (seed ++ "#" ++ toString k) 4)

theorem attempt_iff : Attempt base seed k name ↔ 0 < k ∧ name = suffixedName base seed k := by
  constructor
  · intro h
    cases h with
    | first => exact ⟨Nat.one_pos, rfl⟩
    | later hk => exact ⟨by omega, by rw [suffixedName, salted, if_neg (by omega)]; rfl⟩
  · rintro ⟨hpos, rfl⟩
    by_cases hk : k = 1
    · subst hk
      exact .first
    · rw [suffixedName, salted, if_neg hk]
      exact .later (by omega)

theorem suffixedName_ne_base : suffixedName base seed k ≠ base := by
  intro h
  have hlength := congrArg String.length h
  simp only [suffixedName, String.length_append] at hlength
  have hmark : "_".length = 1 := rfl
  omega

/-- Of all attempts the `k`-th is the first whose name is free, and this is `name`. -/
structure FirstFree (taken : String → Prop) (base seed : String) (k : Nat) (name : String) : Prop where
  attempt : Attempt base seed k name
  free : ¬taken name
  tried : ∀ j < k, ∀ earlier, Attempt base seed j earlier → taken earlier

theorem firstFree_iff {taken : String → Prop} : FirstFree taken base seed k name ↔
    0 < k ∧ name = suffixedName base seed k ∧ ¬taken name ∧
      ∀ j, 0 < j → j < k → taken (suffixedName base seed j) := by
  constructor
  · rintro ⟨hattempt, hfree, htried⟩
    obtain ⟨hpos, hname⟩ := attempt_iff.mp hattempt
    exact ⟨hpos, hname, hfree, fun j hj hlt => htried j hlt _ (attempt_iff.mpr ⟨hj, rfl⟩)⟩
  · rintro ⟨hpos, hname, hfree, htried⟩
    refine ⟨attempt_iff.mpr ⟨hpos, hname⟩, hfree, fun j hlt earlier hearlier => ?_⟩
    obtain ⟨hj, rfl⟩ := attempt_iff.mp hearlier
    exact htried j hj hlt

theorem suffixed_eq_some_iff : (a.withTries n).suffixed base seed = some name ↔
    ∃ k ≤ n, FirstFree (a.isTaken · = true) base seed k name := by
  rw [Allocator.suffixed, findSuffixed_eq_some_iff]
  simp only [isTaken_withTries, firstFree_iff, Bool.not_eq_true]
  constructor
  · rintro ⟨k, hk, hname, hfree, htried⟩
    refine ⟨1 + k, Nat.one_add_le_iff.mpr hk, by omega, hname, hfree, fun j hpos hlt => ?_⟩
    have htaken := htried (j - 1) (by omega)
    rwa [Nat.add_sub_cancel' hpos] at htaken
  · rintro ⟨k, hk, hpos, hname, hfree, htried⟩
    rw [← Nat.add_sub_cancel' hpos] at hname
    exact ⟨k - 1, Nat.lt_of_lt_of_le (by omega) hk, hname, hfree, fun j hj => htried (1 + j) (by omega) (by omega)⟩

/-! ## What comes out -/

/-- In some number of tries the base comes out just when it is not refused, and else the name of the first attempt that
is free, if it is among the tries. -/
structure Picks (taken : String → Prop) (refused : Prop) (base seed : String) (outcome : Nat → Option String) :
    Prop where
  own : ∀ tries, outcome tries = some base ↔ ¬refused
  suffixed : refused → ∀ tries name, outcome tries = some name ↔ ∃ k ≤ tries, FirstFree taken base seed k name

theorem picks_of_choice {refused : Bool} {taken : String → Prop} {outcome : Nat → Option String}
    (htaken : ∀ name, a.isTaken name = true ↔ taken name)
    (h : ∀ n, outcome n = if refused then (a.withTries n).suffixed base seed else some base) :
    Picks taken (refused = true) base seed outcome := by
  obtain rfl : (a.isTaken · = true) = taken := funext fun name => propext (htaken name)
  cases refused with
  | false => exact ⟨fun n => by simp [h], by simp⟩
  | true =>
    have hsuffixed (n : Nat) (name : String) :
        outcome n = some name ↔ ∃ k ≤ n, FirstFree (a.isTaken · = true) base seed k name := by
      rw [h, if_pos rfl, suffixed_eq_some_iff]
    refine ⟨fun n => ?_, fun _ => hsuffixed⟩
    rw [hsuffixed]
    simp only [not_true, iff_false]
    rintro ⟨k, -, hfirst⟩
    exact suffixedName_ne_base (attempt_iff.mp hfirst.attempt).2.symm

/-- Whatever was called before: a name that is asked for the first time is the identifier itself or has the first
suffix that is free, and so it is for the candidate of a synthetic name. Each call asks for one or the other. -/
theorem history_picks_first (prereserved : List String) (tries : Nat) (log : List Answer) (a : Allocator)
    (h : History prereserved tries log a) :
    (∀ q, a.lookup? q = none → Picks (Taken prereserved log) (Claimed prereserved log q) (QualifiedName.bare q) q
      fun n => ((a.withTries n).named q).map Prod.fst) ∧
    (∀ candidate seed, Picks (Taken prereserved log) (Taken prereserved log candidate) candidate seed
      fun n => ((a.withTries n).synthetic candidate seed).map Prod.fst) ∧
    ∀ call n, (a.withTries n).answer call =
      (call.subject? a).elim ((a.withTries n).synthetic call.candidate call.seed) (a.withTries n).named := by
  have htaken (name : String) : a.isTaken name = true ↔ Taken prereserved log name := h.isTaken_iff
  refine ⟨fun q hnew => ?_, fun candidate seed => ?_, fun call n => ?_⟩
  · rw [← h.isClaimed_iff]
    refine picks_of_choice htaken fun n => ?_
    rw [named_of_unknown (by simpa using hnew), Option.map_map, isClaimed_withTries]
    exact Option.map_id'
  · rw [← h.isTaken_iff]
    refine picks_of_choice htaken fun n => ?_
    rw [synthetic_eq, Option.map_map, isTaken_withTries]
    exact Option.map_id'
  · rw [answer_eq]
    cases call <;> rfl

/-- Two names are handed out. The first attempt at a suffix for `b.Item` is bound elsewhere. -/
def crowdedLog : List Answer := [
  ⟨.named "a.Item", some "a.Item", false, "Item"⟩,
  ⟨.named "z.FooInline000", some "z.FooInline000", false, "FooInline000"⟩]

theorem history_picks_first_crowded : ∃ a, History ["q.Item_ed7f"] 2 crowdedLog a ∧ a.lookup? "b.Item" = none ∧
    Claimed ["q.Item_ed7f"] crowdedLog "b.Item" ∧ Taken ["q.Item_ed7f"] crowdedLog "FooInline000" ∧
    (∃ k ≤ 2, FirstFree (Taken ["q.Item_ed7f"] crowdedLog) "Item" "b.Item" k "Item_9913") ∧
    ∃ k ≤ 2, FirstFree (Taken ["q.Item_ed7f"] crowdedLog) "FooInline000" "Foo/0/value" k "FooInline000_65b8" := by
  let start := new ["q.Item_ed7f"] 2
  let first := start.handOut (some "a.Item") "Item"
  let second := first.handOut (some "z.FooInline000") "FooInline000"
  have h1 : start.answer (.named "a.Item") = some ("Item", first) := by decide +kernel
  have h2 : first.answer (.named "z.FooInline000") = some ("FooInline000", second) := by decide +kernel
  have hlog : History ["q.Item_ed7f"] 2 crowdedLog second := .call (.call .start h1) h2
  have hnew : second.lookup? "b.Item" = none := by decide
  have hclaimed : Claimed ["q.Item_ed7f"] crowdedLog "b.Item" := hlog.isClaimed_iff.mp (by decide +kernel)
  have htaken : Taken ["q.Item_ed7f"] crowdedLog "FooInline000" := hlog.isTaken_iff.mp (by decide +kernel)
  obtain ⟨hnamed, hsynthetic, -⟩ := history_picks_first ["q.Item_ed7f"] 2 crowdedLog second hlog
  have hitem := ((hnamed "b.Item" hnew).suffixed hclaimed 2 "Item_9913").mp (by decide +kernel)
  have hinline := ((hsynthetic "FooInline000" "Foo/0/value").suffixed htaken 2 "FooInline000_65b8").mp
    (by decide +kernel)
  have hbare : QualifiedName.bare "b.Item" = "Item" := by decide +kernel
  rw [hbare] at hitem
  exact ⟨second, hlog, hnew, hclaimed, htaken, hitem, hinline⟩

end Declgen.Allocator
