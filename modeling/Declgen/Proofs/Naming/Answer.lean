import Declgen.Naming

/-!
# What an allocator answers

`Answers` says what one call can do: it repeats the name that a qualified name has already, or it hands out a
name that was not handed out before. Both ways into an allocator keep to it, so what holds of an allocator is
proved once for each of the two answers.
-/

namespace Declgen.Allocator

/-- The qualified name that a call of `allocate` is made for, if it is made for one. The first value below a
root without a name of its own goes by the key of the root. -/
def subject? (a : Allocator) (qualified : String) (ctx : Context) : Option String :=
  if !qualified.isEmpty then some qualified
  else
    match ctx with
    | .root key .value => if (a.lookup? key).isNone then some key else none
    | _ => none

/-- The allocator once `name` is handed out, and remembered if there is a qualified name to remember it for. -/
def handOut (a : Allocator) (subject? : Option String) (name : String) : Allocator :=
  { a.reserve name with allocated := (subject?.map (·, name)).toList ++ a.allocated }

/-- What a call for `subject?` can answer. -/
inductive Answers (a : Allocator) (subject? : Option String) : String → Allocator → Prop where
  | known {qualified name : String} :
      subject? = some qualified → a.lookup? qualified = some name → Answers a subject? name a
  | fresh {name : String} :
      (∀ qualified, subject? = some qualified → a.lookup? qualified = none) → name ∉ a.reserved →
      Answers a subject? name (a.handOut subject? name)

@[simp] theorem reserved_handOut (a : Allocator) (subject? : Option String) (name : String) :
    (a.handOut subject? name).reserved = name :: a.reserved := rfl

@[simp] theorem lookup?_handOut_none (a : Allocator) (name qualified : String) :
    (a.handOut none name).lookup? qualified = a.lookup? qualified := rfl

@[simp] theorem lookup?_handOut_some (a : Allocator) (subject name qualified : String) :
    (a.handOut (some subject) name).lookup? qualified =
      if qualified = subject then some name else a.lookup? qualified := by
  by_cases h : qualified = subject
  · simp [handOut, lookup?, h]
  · have hne : (qualified == subject) = false := by simpa using h
    simp [handOut, lookup?, List.lookup_cons, h, hne]

/-! ## Free names -/

theorem not_mem_reserved_of_isTaken {a : Allocator} {name : String} (h : a.isTaken name = false) :
    name ∉ a.reserved := by
  simp only [isTaken, isReserved, Bool.or_eq_false_iff] at h
  simpa using h.1

theorem findSuffixed_eq_some_iff {a : Allocator} {base seed name : String} {tries attempt : Nat} :
    a.findSuffixed base seed tries attempt = some name ↔
    ∃ k < tries, name = suffixedName base seed (attempt + k) ∧ a.isTaken name = false ∧
      ∀ j < k, a.isTaken (suffixedName base seed (attempt + j)) = true := by
  induction tries generalizing attempt with
  | zero => simp [findSuffixed]
  | succ tries ih =>
    have hnext (j : Nat) : attempt + 1 + j = attempt + (j + 1) := by omega
    rw [findSuffixed]
    constructor
    · intro h
      split at h
      · rename_i htaken
        obtain ⟨k, hk, hname, hfree, htried⟩ := ih.mp h
        refine ⟨k + 1, Nat.succ_lt_succ hk, hnext k ▸ hname, hfree, fun j hj => ?_⟩
        cases j with
        | zero => exact htaken
        | succ j => exact hnext j ▸ htried j (Nat.lt_of_succ_lt_succ hj)
      · rename_i hfree
        obtain rfl := Option.some.inj h
        exact ⟨0, Nat.succ_pos tries, rfl, by simpa using hfree, by simp⟩
    · rintro ⟨k, hk, rfl, hfree, htried⟩
      cases k with
      | zero =>
        have hfree : a.isTaken (suffixedName base seed attempt) = false := hfree
        rw [hfree]
        rfl
      | succ k =>
        have htaken : a.isTaken (suffixedName base seed attempt) = true := htried 0 (Nat.succ_pos k)
        rw [if_pos htaken]
        refine ih.mpr ⟨k, Nat.lt_of_succ_lt_succ hk, by rw [hnext], hfree, fun j hj => ?_⟩
        rw [hnext]
        exact htried (j + 1) (Nat.succ_lt_succ hj)

theorem isTaken_findSuffixed {a : Allocator} {base seed name : String} {tries attempt : Nat}
    (h : a.findSuffixed base seed tries attempt = some name) : a.isTaken name = false := by
  obtain ⟨-, -, -, hfree, -⟩ := findSuffixed_eq_some_iff.mp h
  exact hfree

theorem exists_attempt_of_findSuffixed {a : Allocator} {base seed name : String} {tries attempt : Nat}
    (h : a.findSuffixed base seed tries attempt = some name) : ∃ k, suffixedName base seed k = name := by
  obtain ⟨k, -, hname, -, -⟩ := findSuffixed_eq_some_iff.mp h
  exact ⟨attempt + k, hname.symm⟩

theorem findSuffixed_eq_none_iff {a : Allocator} {base seed : String} {tries attempt : Nat} :
    a.findSuffixed base seed tries attempt = none ↔
      ∀ k < tries, a.isTaken (suffixedName base seed (attempt + k)) = true := by
  induction tries generalizing attempt with
  | zero => simp [findSuffixed]
  | succ tries ih =>
    rw [findSuffixed, Nat.forall_lt_succ_left]
    cases htaken : a.isTaken (suffixedName base seed attempt) with
    | true => simp [ih, Nat.add_assoc, Nat.add_comm 1]
    | false => simp

theorem not_mem_reserved_of_suffixed {a : Allocator} {base seed name : String}
    (h : a.suffixed base seed = some name) : name ∉ a.reserved :=
  not_mem_reserved_of_isTaken (isTaken_findSuffixed h)

/-- A name that comes out new is the base, or a suffixed name of it where the base is refused. -/
inductive Chosen (a : Allocator) (refused : Bool) (base seed name : String) : Prop where
  | own : refused = false → name = base → Chosen a refused base seed name
  | suffixed : refused = true → a.suffixed base seed = some name → Chosen a refused base seed name

theorem chosen_of_choice {a : Allocator} {base seed name : String} {refused : Bool}
    (h : (if refused then a.suffixed base seed else some base) = some name) :
    a.Chosen refused base seed name := by
  cases refused with
  | true => exact .suffixed rfl h
  | false => exact .own rfl (Option.some.inj h).symm

theorem Chosen.not_mem_reserved {a : Allocator} {base seed name : String} {refused : Bool}
    (h : a.Chosen refused base seed name) (hfree : refused = false → base ∉ a.reserved) : name ∉ a.reserved := by
  cases h with
  | own hrefused hname =>
    rw [hname]
    exact hfree hrefused
  | suffixed _ hsuffixed => exact not_mem_reserved_of_suffixed hsuffixed

/-! ## The ways into an allocator -/

theorem named_of_known {a : Allocator} {qualified name : String} (h : a.lookup? qualified = some name) :
    a.named qualified = some (name, a) := by
  simp [named, h]

theorem allocate_of_known {a : Allocator} {qualified name : String} (h : a.lookup? qualified = some name)
    (hne : qualified ≠ "") (ctx : Context) : a.allocate qualified ctx = some (name, a) := by
  have hempty : (!qualified.isEmpty) = true := by simpa using hne
  unfold allocate
  rw [if_pos hempty, named_of_known h]

theorem named_of_unknown {a : Allocator} {qualified : String} (h : a.lookup? qualified = none) :
    a.named qualified =
      (if a.isClaimed qualified then a.suffixed (QualifiedName.bare qualified) qualified
        else some (QualifiedName.bare qualified)).map fun name => (name, a.handOut (some qualified) name) := by
  simp only [named, h, Option.map_eq_bind]
  cases a.isClaimed qualified <;> rfl

theorem synthetic_eq (a : Allocator) (candidate seed : String) :
    a.synthetic candidate seed =
      (if a.isTaken candidate then a.suffixed candidate seed else some candidate).map fun name =>
        (name, a.handOut none name) := by
  simp only [synthetic, Option.map_eq_bind]
  cases a.isTaken candidate <;> rfl

theorem chosen_of_named {a b : Allocator} {qualified name : String} (hunknown : a.lookup? qualified = none)
    (h : a.named qualified = some (name, b)) :
    a.Chosen (a.isClaimed qualified) (QualifiedName.bare qualified) qualified name ∧
      b = a.handOut (some qualified) name := by
  rw [named_of_unknown hunknown] at h
  obtain ⟨chosen, hchoice, hout⟩ := Option.map_eq_some_iff.mp h
  obtain ⟨rfl, rfl⟩ := Prod.mk.inj hout
  exact ⟨chosen_of_choice hchoice, rfl⟩

theorem chosen_of_synthetic {a b : Allocator} {candidate seed name : String}
    (h : a.synthetic candidate seed = some (name, b)) :
    a.Chosen (a.isTaken candidate) candidate seed name ∧ b = a.handOut none name := by
  rw [synthetic_eq] at h
  obtain ⟨chosen, hchoice, hout⟩ := Option.map_eq_some_iff.mp h
  obtain ⟨rfl, rfl⟩ := Prod.mk.inj hout
  exact ⟨chosen_of_choice hchoice, rfl⟩

theorem named_answers {a b : Allocator} {qualified name : String} (h : a.named qualified = some (name, b)) :
    Answers a (some qualified) name b := by
  cases hlookup : a.lookup? qualified with
  | some known =>
    rw [named_of_known hlookup] at h
    obtain ⟨rfl, rfl⟩ := Prod.mk.inj (Option.some.inj h)
    exact .known rfl hlookup
  | none =>
    obtain ⟨hchosen, rfl⟩ := chosen_of_named hlookup h
    refine .fresh (by rintro _ ⟨⟩; exact hlookup) (hchosen.not_mem_reserved ?_)
    intro hclaimed
    simp only [isClaimed, isReserved, Bool.or_eq_false_iff] at hclaimed
    simpa using hclaimed.2

theorem synthetic_answers {a b : Allocator} {candidate seed name : String}
    (h : a.synthetic candidate seed = some (name, b)) : Answers a none name b := by
  obtain ⟨hchosen, rfl⟩ := chosen_of_synthetic h
  exact .fresh (by simp) (hchosen.not_mem_reserved not_mem_reserved_of_isTaken)

/-- The name that is given if it is free, to what stands at a place and has no name of its own. -/
def placeName : Context → String
  | .root key slot => QualifiedName.bare key ++ slot.nameSuffix
  | .field parent index slot => parent ++ "Inline" ++ threeDigits index ++ slot.nameSuffix

/-- The seed of its suffixes. -/
def placeSeed : Context → String
  | .root key slot => key ++ "/" ++ slot.text
  | .field parent index slot => parent ++ "/" ++ toString index ++ "/" ++ slot.text

theorem allocate_eq (a : Allocator) (qualified : String) (ctx : Context) :
    a.allocate qualified ctx =
      (a.subject? qualified ctx).elim (a.synthetic (placeName ctx) (placeSeed ctx)) a.named := by
  unfold allocate subject?
  by_cases hnamed : (!qualified.isEmpty) = true
  · simp only [if_pos hnamed, Option.elim_some]
  · simp only [if_neg hnamed]
    cases ctx with
    | field parent index slot => rfl
    | root key slot =>
      cases slot with
      | mapKey => rfl
      | value =>
        simp only [decide_true, Bool.true_and]
        split <;> rfl

theorem allocate_cases {a b : Allocator} {qualified name : String} {ctx : Context}
    (h : a.allocate qualified ctx = some (name, b)) :
    (∃ q, a.subject? qualified ctx = some q ∧ a.named q = some (name, b)) ∨
      (a.subject? qualified ctx = none ∧ ∃ candidate seed, a.synthetic candidate seed = some (name, b)) := by
  rw [allocate_eq] at h
  cases hsubject : a.subject? qualified ctx with
  | some q =>
    rw [hsubject] at h
    exact .inl ⟨q, rfl, h⟩
  | none =>
    rw [hsubject] at h
    exact .inr ⟨rfl, _, _, h⟩

theorem allocate_answers {a b : Allocator} {qualified name : String} {ctx : Context}
    (h : a.allocate qualified ctx = some (name, b)) : Answers a (a.subject? qualified ctx) name b := by
  rcases allocate_cases h with ⟨q, hsubject, hnamed⟩ | ⟨hsubject, candidate, seed, hsynthetic⟩
  · rw [hsubject]
    exact named_answers hnamed
  · rw [hsubject]
    exact synthetic_answers hsynthetic

/-! ## What all answers keep -/

/-- Names are handed out once, and what a qualified name has is its own. -/
structure Sound (a : Allocator) : Prop where
  nodup : a.reserved.Nodup
  mem_reserved : ∀ {qualified name}, a.lookup? qualified = some name → name ∈ a.reserved
  injective : ∀ {q r name}, a.lookup? q = some name → a.lookup? r = some name → q = r

/-- `b` knows all that `a` knows. -/
structure Extends (a b : Allocator) : Prop where
  reserved : a.reserved ⊆ b.reserved
  lookup : ∀ {qualified name}, a.lookup? qualified = some name → b.lookup? qualified = some name

theorem Sound.new (prereserved : List String) (tries : Nat) : (new prereserved tries).Sound where
  nodup := List.nodup_nil
  mem_reserved h := by simp [Allocator.new, lookup?] at h
  injective h := by simp [Allocator.new, lookup?] at h

theorem Extends.refl (a : Allocator) : a.Extends a := ⟨List.Subset.refl _, id⟩

theorem Extends.trans {a b c : Allocator} (hab : a.Extends b) (hbc : b.Extends c) : a.Extends c :=
  ⟨List.Subset.trans hab.reserved hbc.reserved, fun h => hbc.lookup (hab.lookup h)⟩

namespace Answers

variable {a b : Allocator} {subject? : Option String} {name : String}

theorem mem_reserved (h : Answers a subject? name b) (ha : a.Sound) : name ∈ b.reserved := by
  cases h with
  | known _ hlookup => exact ha.mem_reserved hlookup
  | fresh => simp

theorem lookup? {qualified : String} (h : Answers a (some qualified) name b) :
    b.lookup? qualified = some name := by
  cases h with
  | known hsubject hlookup =>
    obtain rfl := Option.some.inj hsubject
    exact hlookup
  | fresh => simp

theorem grows (h : Answers a subject? name b) : a.Extends b := by
  cases h with
  | known => exact .refl a
  | fresh hnew =>
    refine ⟨by simp, fun {q n} hlookup => ?_⟩
    cases subject? with
    | none => exact hlookup
    | some subject =>
      have hne : q ≠ subject := by
        rintro rfl
        simp [hnew q rfl] at hlookup
      simpa [hne] using hlookup

theorem sound (h : Answers a subject? name b) (ha : a.Sound) : b.Sound := by
  cases h with
  | known => exact ha
  | fresh hnew hfree =>
    cases subject? with
    | none =>
      exact ⟨List.nodup_cons.mpr ⟨hfree, ha.nodup⟩,
        fun hlookup => List.mem_cons_of_mem _ (ha.mem_reserved hlookup), ha.injective⟩
    | some subject =>
      -- What was known before is not `name`, which nothing had.
      have hold : ∀ {q}, a.lookup? q = some name → False :=
        fun hq => hfree (ha.mem_reserved hq)
      refine ⟨List.nodup_cons.mpr ⟨hfree, ha.nodup⟩, ?_, ?_⟩
      · intro q n hlookup
        rw [lookup?_handOut_some] at hlookup
        split at hlookup
        · obtain rfl := Option.some.inj hlookup
          simp
        · exact List.mem_cons_of_mem _ (ha.mem_reserved hlookup)
      · intro q r n hq hr
        rw [lookup?_handOut_some] at hq hr
        split at hq <;> split at hr
        · rename_i hq' hr'
          rw [hq', hr']
        · obtain rfl := Option.some.inj hq
          exact (hold hr).elim
        · obtain rfl := Option.some.inj hr
          exact (hold hq).elim
        · exact ha.injective hq hr

end Answers

end Declgen.Allocator
