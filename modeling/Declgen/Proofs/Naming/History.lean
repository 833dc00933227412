import Declgen.Proofs.Naming.Answer

/-!
# Histories of an allocator

A history is a sequence of calls of any kind, each with its answer. The main statement: whatever was called in
whatever order, a name is handed out once, and a qualified name keeps what it got.
-/

namespace Declgen

/-- The key of the root that a place stands below, if no field is between them. -/
def Context.key? : Context → Option String
  | .root key _ => some key
  | .field _ _ _ => none

/-- The type below whose field a place is. -/
def Context.parent? : Context → Option String
  | .root _ _ => none
  | .field parent _ _ => some parent

namespace Allocator

/-! ## Calls -/

inductive Call where
  | allocate (qualified : String) (ctx : Context)
  | named (qualified : String)
  | inline (parent : String) (index : Nat) (slot : Slot)

/-- What a call gives, and the allocator after it. -/
def answer (a : Allocator) : Call → Option (String × Allocator)
  | .allocate qualified ctx => a.allocate qualified ctx
  | .named qualified => a.named qualified
  | .inline parent index slot => a.inline parent index slot

/-- The qualified name that a call is made for. A call for none gets a synthetic name. -/
def Call.subject? (a : Allocator) : Call → Option String
  | .allocate qualified ctx => a.subject? qualified ctx
  | .named qualified => some qualified
  | .inline _ _ _ => none

namespace Call

/-- The name that is given if it is free. -/
def candidate : Call → String
  | .allocate qualified ctx => if qualified.isEmpty then placeName ctx else QualifiedName.bare qualified
  | .named qualified => QualifiedName.bare qualified
  | .inline parent index slot => placeName (.field parent index slot)

def seed : Call → String
  | .allocate qualified ctx => if qualified.isEmpty then placeSeed ctx else qualified
  | .named qualified => qualified
  | .inline parent index slot => placeSeed (.field parent index slot)

/-- The qualified names and the keys of roots that the call uses. -/
def sources : Call → List String
  | .allocate qualified ctx => if qualified.isEmpty then ctx.key?.toList else [qualified]
  | .named qualified => [qualified]
  | .inline _ _ _ => []

/-- The type that the call names a part of. -/
def parent? : Call → Option String
  | .allocate qualified ctx => if qualified.isEmpty then ctx.parent? else none
  | .named _ => none
  | .inline parent _ _ => some parent

end Call

variable {a b : Allocator} {call : Call} {name : String}

theorem Call.of_subject? {q : String} (h : call.subject? a = some q) :
    call.candidate = QualifiedName.bare q ∧ q ∈ call.sources := by
  cases call with
  | named =>
    obtain rfl := Option.some.inj h
    exact ⟨rfl, List.mem_singleton_self _⟩
  | inline => simp [Call.subject?] at h
  | allocate qualified place =>
    rw [Call.subject?] at h
    unfold Allocator.subject? at h
    rw [candidate, sources]
    by_cases hempty : qualified.isEmpty = true
    · rw [if_neg (by simp [hempty])] at h
      rw [if_pos hempty, if_pos hempty]
      split at h
      · obtain ⟨-, hkey⟩ := Option.ite_none_right_eq_some.mp h
        obtain rfl := Option.some.inj hkey
        simp [placeName, Slot.nameSuffix, Context.key?]
      · simp at h
    · rw [if_pos (by simp [hempty])] at h
      obtain rfl := Option.some.inj h
      rw [if_neg hempty, if_neg hempty]
      exact ⟨rfl, List.mem_singleton_self _⟩

theorem answer_eq (a : Allocator) (call : Call) :
    a.answer call = (call.subject? a).elim (a.synthetic call.candidate call.seed) a.named := by
  cases call with
  | named => rfl
  | inline => rfl
  | allocate qualified place =>
    rw [answer, allocate_eq, Call.subject?]
    cases hsubject : a.subject? qualified place with
    | some q => rfl
    | none =>
      have hempty : qualified.isEmpty = true := by
        cases hnamed : qualified.isEmpty with
        | true => rfl
        | false => simp [Allocator.subject?, hnamed] at hsubject
      simp only [Option.elim_none, Call.candidate, Call.seed, if_pos hempty]

/-! ## Answers -/

/-- A call that was answered. -/
structure Answer where
  call : Call
  subject? : Option String
  /-- The answer was in memory. -/
  known : Bool
  name : String

/-- The record of a call of `a` that gave `name`. -/
def Answer.of (a : Allocator) (call : Call) (name : String) : Answer where
  call := call
  subject? := call.subject? a
  known := (call.subject? a).any fun qualified => (a.lookup? qualified).isSome
  name := name

@[simp] theorem Answer.of_name (a : Allocator) (call : Call) (name : String) :
    (Answer.of a call name).name = name := rfl

@[simp] theorem Answer.of_subject? (a : Allocator) (call : Call) (name : String) :
    (Answer.of a call name).subject? = call.subject? a := rfl

/-- The calls made of a new allocator, the latest last, and the allocator after them. -/
inductive History (prereserved : List String) (tries : Nat) : List Answer → Allocator → Prop where
  | start : History prereserved tries [] (new prereserved tries)
  | call {log : List Answer} {a b : Allocator} {call : Call} {name : String} :
      History prereserved tries log a → a.answer call = some (name, b) →
      History prereserved tries (log ++ [.of a call name]) b

theorem answers_of_answer (h : a.answer call = some (name, b)) : Answers a (call.subject? a) name b := by
  cases call with
  | allocate => exact allocate_answers h
  | named => exact named_answers h
  | inline => exact synthetic_answers h

theorem Answers.not_mem_reserved (h : Answers a (call.subject? a) name b)
    (hnew : (Answer.of a call name).known = false) : name ∉ a.reserved := by
  cases h with
  | known hsubject hlookup => simp [Answer.of, hsubject, hlookup] at hnew
  | fresh _ hfree => exact hfree

/-- What is named a part of has come out of an earlier call. -/
def Nested (log : List Answer) : Prop :=
  ∀ before e, before ++ [e] <+: log → ∀ parent, e.call.parent? = some parent → ∃ earlier ∈ before, earlier.name = parent

theorem nested_nil : Nested [] := by
  intro before e h
  simp at h

theorem nested_concat_iff {log : List Answer} {e : Answer} :
    Nested (log ++ [e]) ↔
      Nested log ∧ ∀ parent, e.call.parent? = some parent → ∃ earlier ∈ log, earlier.name = parent := by
  constructor
  · intro h
    exact ⟨fun before last hlast => h before last (hlast.trans (List.prefix_append log [e])),
      h log e (List.prefix_refl _)⟩
  · rintro ⟨hlog, he⟩ before last hlast
    rcases List.prefix_concat_iff.mp hlast with heq | hold
    · obtain ⟨rfl, hsame⟩ := List.append_inj' heq rfl
      obtain rfl := List.singleton_inj.mp hsame
      exact he
    · exact hlog before last hold

/-- What the answers of a history and the allocator after it owe to each other. -/
structure Faithful (log : List Answer) (a : Allocator) : Prop where
  /-- What is handed out is what came out. -/
  reserved : ∀ name, name ∈ a.reserved ↔ ∃ e ∈ log, e.name = name
  /-- What was not in memory came out for the first time. -/
  fresh : log.Pairwise fun e later => later.known = false → later.name ≠ e.name
  /-- Two qualified names have different names. -/
  injective : ∀ q r name, a.lookup? q = some name → a.lookup? r = some name → q = r
  /-- A synthetic name came out of no other call, before or after. -/
  synthetic : log.Pairwise fun e later => e.subject? = none ∨ later.subject? = none → e.name ≠ later.name
  /-- A qualified name has from now on the name that it got, and asking for it changes nothing. -/
  kept : ∀ e ∈ log, ∀ qualified, e.subject? = some qualified →
    a.lookup? qualified = some e.name ∧ a.named qualified = some (e.name, a) ∧
      (qualified ≠ "" → ∀ ctx, a.allocate qualified ctx = some (e.name, a))

namespace History

variable {prereserved : List String} {tries : Nat} {log : List Answer}

theorem prereserved_eq (h : History prereserved tries log a) : a.prereserved = prereserved := by
  induction h with
  | start => rfl
  | call _ hcall ih =>
    rw [← ih]
    cases answers_of_answer hcall <;> rfl

theorem sound (h : History prereserved tries log a) : a.Sound := by
  induction h with
  | start => exact .new prereserved tries
  | call _ hcall ih => exact (answers_of_answer hcall).sound ih

theorem mem_reserved_iff (h : History prereserved tries log a) (name : String) :
    name ∈ a.reserved ↔ ∃ e ∈ log, e.name = name := by
  induction h with
  | start => simp [Allocator.new]
  | call hlog hcall ih =>
    simp only [List.mem_append, List.mem_singleton, or_and_right, exists_or, exists_eq_left, ← ih,
      Answer.of_name]
    have hanswers := answers_of_answer hcall
    generalize Call.subject? _ _ = subject? at hanswers
    cases hanswers with
    | known _ hlookup =>
      refine ⟨.inl, ?_⟩
      rintro (hname | rfl)
      · exact hname
      · exact hlog.sound.mem_reserved hlookup
    | fresh => simp [or_comm, eq_comm]

theorem lookup_of_mem (h : History prereserved tries log a) {e : Answer} (he : e ∈ log) {qualified : String}
    (hsubject : e.subject? = some qualified) : a.lookup? qualified = some e.name := by
  induction h with
  | start => simp at he
  | call _ hcall ih =>
    have hanswers := answers_of_answer hcall
    rcases List.mem_append.mp he with he | he
    · exact hanswers.grows.lookup (ih he)
    · obtain rfl := List.mem_singleton.mp he
      rw [Answer.of_subject?] at hsubject
      rw [hsubject] at hanswers
      exact hanswers.lookup?

theorem pairwise_fresh (h : History prereserved tries log a) :
    log.Pairwise fun e later => later.known = false → later.name ≠ e.name := by
  induction h with
  | start => exact List.Pairwise.nil
  | call hlog hcall ih =>
    refine List.pairwise_append.mpr ⟨ih, List.pairwise_singleton _ _, ?_⟩
    intro e he later hlater hnew hname
    obtain rfl := List.mem_singleton.mp hlater
    have hfree := (answers_of_answer hcall).not_mem_reserved hnew
    exact hfree ((hlog.mem_reserved_iff _).mpr ⟨e, he, hname.symm⟩)

theorem lookup_ne_synthetic (h : History prereserved tries log a) {e : Answer} (he : e ∈ log)
    (hsynthetic : e.subject? = none) {qualified name : String} (hlookup : a.lookup? qualified = some name) :
    e.name ≠ name := by
  induction h with
  | start => simp at he
  | call hlog hcall ih =>
    have hanswers := answers_of_answer hcall
    rcases List.mem_append.mp he with hold | hlast
    · -- An older synthetic name: what was looked up is older as well, or it is new.
      generalize Call.subject? _ _ = subject? at hanswers
      cases hanswers with
      | known => exact ih hold hlookup
      | fresh _ hfree =>
        cases subject? with
        | none => exact ih hold hlookup
        | some subject =>
          rw [lookup?_handOut_some] at hlookup
          split at hlookup
          · obtain rfl := Option.some.inj hlookup
            exact fun hname => hfree ((hlog.mem_reserved_iff _).mpr ⟨e, hold, hname⟩)
          · exact ih hold hlookup
    · -- The latest name is new, and what can be looked up was there before.
      obtain rfl := List.mem_singleton.mp hlast
      rw [Answer.of_subject?] at hsynthetic
      rw [hsynthetic] at hanswers
      cases hanswers with
      | known hsubject => simp at hsubject
      | fresh _ hfree =>
        rw [lookup?_handOut_none] at hlookup
        rw [Answer.of_name]
        rintro rfl
        exact hfree (hlog.sound.mem_reserved hlookup)

theorem known_of_mem (h : History prereserved tries log a) {e : Answer} (he : e ∈ log)
    (hsynthetic : e.subject? = none) : e.known = false := by
  induction h with
  | start => simp at he
  | call _ _ ih =>
    rcases List.mem_append.mp he with he | he
    · exact ih he
    · obtain rfl := List.mem_singleton.mp he
      rw [Answer.of_subject?] at hsynthetic
      simp [Answer.of, hsynthetic]

theorem pairwise_synthetic (h : History prereserved tries log a) :
    log.Pairwise fun e later => e.subject? = none ∨ later.subject? = none → e.name ≠ later.name := by
  refine h.pairwise_fresh.imp_of_mem fun {e later} he hlater hfresh hsynthetic => ?_
  cases hsubject : later.subject? with
  | none => exact (hfresh (h.known_of_mem hlater hsubject)).symm
  | some qualified =>
    have hnone : e.subject? = none := by simpa [hsubject] using hsynthetic
    exact h.lookup_ne_synthetic he hnone (h.lookup_of_mem hlater hsubject)

end History

/-- Whatever is asked in whatever order, names are handed out once and kept. -/
theorem history_faithful (prereserved : List String) (tries : Nat) (log : List Answer) (a : Allocator)
    (h : History prereserved tries log a) : Faithful log a where
  reserved := h.mem_reserved_iff
  fresh := h.pairwise_fresh
  injective _ _ _ := h.sound.injective
  synthetic := h.pairwise_synthetic
  kept e he qualified hsubject := by
    have hlookup := h.lookup_of_mem he hsubject
    exact ⟨hlookup, named_of_known hlookup, fun hne ctx => allocate_of_known hlookup hne ctx⟩

/-- The identifier `Item` is bound elsewhere, and `FooInline000` goes to a field before it is asked for. -/
theorem history_faithful_of_collisions : ∃ a, Faithful [
    ⟨.named "a.Item", some "a.Item", false, "Item_dbce"⟩,
    ⟨.inline "Foo" 0 .value, none, false, "FooInline000"⟩,
    ⟨.named "z.FooInline000", some "z.FooInline000", false, "FooInline000_b8b6"⟩,
    ⟨.allocate "a.Item" (.field "Foo" 1 .value), some "a.Item", true, "Item_dbce"⟩] a := by
  let start := new ["other.Item"] 1
  let first := start.handOut (some "a.Item") "Item_dbce"
  let second := first.handOut none "FooInline000"
  let third := second.handOut (some "z.FooInline000") "FooInline000_b8b6"
  have h1 : start.answer (.named "a.Item") = some ("Item_dbce", first) := by decide +kernel
  have h2 : first.answer (.inline "Foo" 0 .value) = some ("FooInline000", second) := by decide +kernel
  have h3 : second.answer (.named "z.FooInline000") = some ("FooInline000_b8b6", third) := by decide +kernel
  have h4 : third.answer (.allocate "a.Item" (.field "Foo" 1 .value)) = some ("Item_dbce", third) := by
    decide +kernel
  exact ⟨third, history_faithful ["other.Item"] 1 _ _ (.call (.call (.call (.call .start h1) h2) h3) h4)⟩

end Allocator

end Declgen
