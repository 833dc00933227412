import Declgen.Proofs.Naming.History
import Declgen.Proofs.Naming.Origin

/-!
# Identifiers that are bound elsewhere

An identifier that is bound elsewhere has one owner: the last qualified name that is listed with it. Whatever is
called in whatever order, the identifier comes out of calls for its owner alone, and the owner gets nothing else.
-/

namespace Declgen.Allocator

/-! ## Owners -/

/-- Behind `owner` nothing is listed with the same identifier. -/
def IsOwner (prereserved : List String) (owner : String) : Prop :=
  ∃ before after, prereserved = before ++ owner :: after ∧
    ∀ q ∈ after, QualifiedName.bare q ≠ QualifiedName.bare owner

theorem owner?_eq_some_iff {prereserved : List String} {tries : Nat} {identifier owner : String} :
    (new prereserved tries).owner? identifier = some owner ↔
      QualifiedName.bare owner = identifier ∧ IsOwner prereserved owner := by
  unfold owner? new IsOwner
  simp only [List.find?_eq_some_iff_append, beq_iff_eq, Bool.not_eq_true', beq_eq_false_iff_ne]
  constructor
  · rintro ⟨rfl, after, before, hsplit, hlast⟩
    refine ⟨rfl, before.reverse, after.reverse, ?_, ?_⟩
    · have hreverse := congrArg List.reverse hsplit
      simpa using hreverse
    · intro q hq
      exact hlast q (List.mem_reverse.mp hq)
  · rintro ⟨rfl, before, after, rfl, hlast⟩
    refine ⟨rfl, after.reverse, before.reverse, by simp, ?_⟩
    intro q hq
    exact hlast q (List.mem_reverse.mp hq)

theorem exists_isOwner {prereserved : List String} {q : String} (h : q ∈ prereserved) :
    ∃ owner, IsOwner prereserved owner ∧ QualifiedName.bare owner = QualifiedName.bare q := by
  obtain ⟨owner, -, howner⟩ := @exists_owner (new prereserved 0) q h
  obtain ⟨hbare, hlast⟩ := owner?_eq_some_iff.mp howner
  exact ⟨owner, hlast, hbare⟩

/-! ## One call -/

variable {a b : Allocator} {call : Call} {name owner : String}

theorem named_or_synthetic (h : a.answer call = some (name, b)) :
    (∃ q, call.subject? a = some q ∧ a.named q = some (name, b)) ∨
      (call.subject? a = none ∧ ∃ candidate seed, a.synthetic candidate seed = some (name, b)) := by
  cases call with
  | named q => exact .inl ⟨q, rfl, h⟩
  | inline parent index slot => exact .inr ⟨rfl, _, _, h⟩
  | allocate q ctx => exact allocate_cases h

theorem owner?_of_suffixed {base seed : String} (h : a.suffixed base seed = some name) : a.owner? name = none :=
  owner?_of_isTaken (isTaken_findSuffixed h)

theorem owner?_of_synthetic {candidate seed : String} (h : a.synthetic candidate seed = some (name, b)) :
    a.owner? name = none := by
  obtain ⟨hchosen, -⟩ := chosen_of_synthetic h
  cases hchosen with
  | suffixed _ hsuffixed => exact owner?_of_suffixed hsuffixed
  | own hfree hname =>
    rw [hname]
    exact owner?_of_isTaken hfree

theorem owner_of_named {q : String} (hnew : a.lookup? q = none) (h : a.named q = some (name, b))
    (howner : a.owner? name = some owner) : q = owner := by
  obtain ⟨hchosen, -⟩ := chosen_of_named hnew h
  cases hchosen with
  | suffixed _ hsuffixed => simp [owner?_of_suffixed hsuffixed] at howner
  | own hfree hname =>
    rw [hname] at howner
    exact (owner_eq_of_isClaimed hfree owner howner).symm

/-! ## What all calls keep -/

/-- The identifier of the owner is bound to it, and has not gone to anyone else. -/
structure Keeps (a : Allocator) (owner : String) : Prop where
  bound : a.owner? (QualifiedName.bare owner) = some owner
  apart : QualifiedName.bare owner ∈ a.reserved → a.lookup? owner = some (QualifiedName.bare owner)
  own : ∀ name, a.lookup? owner = some name → name = QualifiedName.bare owner

theorem Keeps.named (h : a.Keeps owner) :
    ∃ b, a.named owner = some (QualifiedName.bare owner, b) := by
  cases hlookup : a.lookup? owner with
  | some name =>
    obtain rfl := h.own name hlookup
    exact ⟨a, named_of_known hlookup⟩
  | none =>
    have hfree : QualifiedName.bare owner ∉ a.reserved := by
      intro hmem
      simp [h.apart hmem] at hlookup
    have hclaimed : a.isClaimed owner = false := by simp [isClaimed, isReserved, h.bound, hfree]
    rw [named_of_unknown hlookup, hclaimed]
    exact ⟨_, rfl⟩

theorem Keeps.answer_iff (hkeeps : a.Keeps owner) (ha : a.Sound) (h : a.answer call = some (name, b)) :
    name = QualifiedName.bare owner ↔ call.subject? a = some owner := by
  constructor
  · rintro rfl
    rcases named_or_synthetic h with ⟨q, hsubject, hnamed⟩ | ⟨-, candidate, seed, hsynthetic⟩
    · rw [hsubject]
      cases hlookup : a.lookup? q with
      | none => rw [owner_of_named hlookup hnamed hkeeps.bound]
      | some known =>
        rw [named_of_known hlookup] at hnamed
        obtain ⟨rfl, -⟩ := Prod.mk.inj (Option.some.inj hnamed)
        rw [ha.injective hlookup (hkeeps.apart (ha.mem_reserved hlookup))]
    · have hnone := owner?_of_synthetic hsynthetic
      simp [hkeeps.bound] at hnone
  · intro hsubject
    rcases named_or_synthetic h with ⟨q, hq, hnamed⟩ | ⟨hnone, -⟩
    · obtain rfl : owner = q := Option.some.inj (hsubject.symm.trans hq)
      obtain ⟨c, hc⟩ := hkeeps.named
      rw [hc] at hnamed
      exact (Prod.mk.inj (Option.some.inj hnamed)).1.symm
    · simp [hsubject] at hnone

theorem Keeps.answer (hkeeps : a.Keeps owner) (ha : a.Sound) (h : a.answer call = some (name, b)) :
    b.Keeps owner := by
  have hiff := hkeeps.answer_iff ha h
  have hanswers := answers_of_answer h
  generalize call.subject? a = subject? at hiff hanswers
  cases hanswers with
  | known => exact hkeeps
  -- a new name is the identifier only in a call for the owner, which is then remembered with it
  | fresh hnew hfree =>
    refine ⟨hkeeps.bound, ?_, ?_⟩
    · intro hmem
      rcases List.mem_cons.mp hmem with hname | hold
      · rw [hiff.mp hname.symm, lookup?_handOut_some, if_pos rfl, hname]
      · have hlookup := hkeeps.apart hold
        exact (Answers.fresh hnew hfree).grows.lookup hlookup
    · intro n hlookup
      cases subject? with
      | none => exact hkeeps.own n hlookup
      | some subject =>
        rw [lookup?_handOut_some] at hlookup
        split at hlookup
        · rename_i hsame
          obtain rfl := Option.some.inj hlookup
          exact hiff.mpr (congrArg some hsame.symm)
        · exact hkeeps.own n hlookup

/-! ## Histories -/

variable {prereserved : List String} {tries : Nat} {log : List Answer}

theorem History.keeps (h : History prereserved tries log a) (howner : IsOwner prereserved owner) :
    a.Keeps owner := by
  induction h with
  | start =>
    refine ⟨owner?_eq_some_iff.mpr ⟨rfl, howner⟩, ?_, ?_⟩
    · intro hmem
      simp [new] at hmem
    · intro n hlookup
      simp [new, lookup?] at hlookup
  | call hlog hcall ih => exact ih.answer hlog.sound hcall

theorem History.owned (h : History prereserved tries log a) (howner : IsOwner prereserved owner) :
    ∀ e ∈ log, e.name = QualifiedName.bare owner ↔ e.subject? = some owner := by
  induction h with
  | start => simp
  | call hlog hcall ih =>
    intro e he
    rcases List.mem_append.mp he with hold | hlast
    · exact ih e hold
    · obtain rfl := List.mem_singleton.mp hlast
      exact (hlog.keeps howner).answer_iff hlog.sound hcall

/-- Each identifier that is bound elsewhere has an owner. At all times it comes out of calls for the owner and of no
others, and the owner can have it. -/
theorem history_owned (prereserved : List String) (tries : Nat) (log : List Answer) (a : Allocator)
    (h : History prereserved tries log a) (q : String) (hq : q ∈ prereserved) :
    ∃ owner, IsOwner prereserved owner ∧ QualifiedName.bare owner = QualifiedName.bare q ∧
      (∀ e ∈ log, e.name = QualifiedName.bare q ↔ e.subject? = some owner) ∧
      ∃ b, a.named owner = some (QualifiedName.bare q, b) := by
  obtain ⟨owner, howner, hbare⟩ := exists_isOwner hq
  refine ⟨owner, howner, hbare, ?_, ?_⟩
  · rw [← hbare]
    exact h.owned howner
  · rw [← hbare]
    exact (h.keeps howner).named

/-- `Item` is listed twice. The node that is listed last comes late, and as a root without a name, and gets it. -/
theorem history_owned_of_latecomer : ∃ owner, IsOwner ["old.Item", "a.Item", "z.FooInline000"] owner ∧
    QualifiedName.bare owner = "Item" ∧
    (∀ e ∈ [
      Answer.mk (.named "b.Item") (some "b.Item") false "Item_ed7f",
      Answer.mk (.inline "Foo" 0 .value) none false "FooInline000_65b8",
      Answer.mk (.allocate "" (.root "a.Item" .value)) (some "a.Item") false "Item"],
      e.name = "Item" ↔ e.subject? = some owner) := by
  let start := new ["old.Item", "a.Item", "z.FooInline000"] 1
  let first := start.handOut (some "b.Item") "Item_ed7f"
  let second := first.handOut none "FooInline000_65b8"
  let third := second.handOut (some "a.Item") "Item"
  have h1 : start.answer (.named "b.Item") = some ("Item_ed7f", first) := by decide +kernel
  have h2 : first.answer (.inline "Foo" 0 .value) = some ("FooInline000_65b8", second) := by decide +kernel
  have h3 : second.answer (.allocate "" (.root "a.Item" .value)) = some ("Item", third) := by decide +kernel
  have hlisted : "old.Item" ∈ ["old.Item", "a.Item", "z.FooInline000"] := by decide
  have hitem : QualifiedName.bare "old.Item" = "Item" := by decide +kernel
  obtain ⟨owner, howner, hbare, hlog, -⟩ :=
    history_owned _ 1 _ third (.call (.call (.call .start h1) h2) h3) "old.Item" hlisted
  rw [hitem] at hbare hlog
  exact ⟨owner, howner, hbare, hlog⟩

end Declgen.Allocator
