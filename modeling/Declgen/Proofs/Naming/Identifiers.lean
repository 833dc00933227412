import Declgen.Proofs.Naming.Origin
import Declgen.Source.Keyword

/-!
# Names that stay identifiers

A name grows by a suffix at a time. Each suffix consists of characters of words and holds one that turns the few words
without a raw form into others, so what is made from an identifier is one.
-/

namespace Declgen

/-! ## Words -/

namespace Source

theorem isAsciiWordChar_of_isDigit {c : Char} (h : c.isDigit = true) : isAsciiWordChar c = true := by
  simp [isAsciiWordChar, Char.isAlphanum, h]

theorem isAsciiWordChar_of_mem_hexChars {text : String} {c : Char} (h : c ∈ Digest.hexChars text) :
    isAsciiWordChar c = true := by
  have hdigits : ∀ d < 16, isAsciiWordChar (Digest.hexDigit d) = true := by decide
  obtain ⟨d, hd, rfl⟩ := Digest.exists_hexDigit_of_mem_hexChars h
  exact hdigits d hd

theorem isAsciiWord_append {base suffix : String} (hbase : isAsciiWord base = true)
    (hsuffix : ∀ c ∈ suffix.toList, isAsciiWordChar c = true) : isAsciiWord (base ++ suffix) = true := by
  unfold isAsciiWord at hbase ⊢
  rw [String.toList_append]
  cases hcs : base.toList with
  | nil => simp [hcs] at hbase
  | cons c rest =>
    rw [hcs] at hbase
    obtain ⟨hstart, hrest⟩ := Bool.and_eq_true_iff.mp hbase
    have hall : (rest ++ suffix.toList).all isAsciiWordChar = true := by
      rw [List.all_append, hrest, List.all_eq_true.mpr hsuffix]
      rfl
    exact Bool.and_eq_true_iff.mpr ⟨hstart, hall⟩

/-- The characters that no word without a raw form has behind its first one, and one of which every suffix has. -/
def marks : List Char := ['_', 'I', 'K']

theorem canBeRaw_of_mem_tail {word : String} {c : Char} (hc : c ∈ marks) (h : c ∈ word.toList.tail) :
    canBeRaw word = true := by
  have hnone : ∀ word ∈ unescapable, marks.all (fun c => !word.toList.tail.contains c) = true := by decide
  unfold canBeRaw
  rw [Bool.not_eq_true', List.contains_eq_mem, decide_eq_false_iff_not]
  intro hmem
  have hout := List.all_eq_true.mp (hnone word hmem) c hc
  simp [h] at hout

theorem isIdentifier_append {base suffix : String} (hbase : isIdentifier base = true)
    (hsuffix : ∀ c ∈ suffix.toList, isAsciiWordChar c = true) (hmark : ∃ c ∈ marks, c ∈ suffix.toList) :
    isIdentifier (base ++ suffix) = true := by
  obtain ⟨hword, -⟩ := Bool.and_eq_true_iff.mp hbase
  obtain ⟨c, hc, hmem⟩ := hmark
  refine Bool.and_eq_true_iff.mpr ⟨isAsciiWord_append hword hsuffix, canBeRaw_of_mem_tail hc ?_⟩
  -- The base is not empty, so the suffix is behind the first character.
  have hne : base.toList ≠ [] := by
    intro hempty
    simp [isAsciiWord, hempty] at hword
  rw [String.toList_append, List.tail_append_of_ne_nil hne]
  exact List.mem_append_right _ hmem

end Source

namespace Allocator

open Source (isIdentifier isAsciiWordChar)

variable {a b : Allocator} {call : Call} {name : String}

/-! ## Suffixes -/

theorem isIdentifier_suffixedName {base : String} (h : isIdentifier base = true) (seed : String) (attempt : Nat) :
    isIdentifier (suffixedName base seed attempt) = true := by
  unfold suffixedName
  rw [String.append_assoc]
  refine Source.isIdentifier_append h ?_ ⟨'_', by simp [Source.marks], by simp⟩
  intro c hc
  rw [String.toList_append] at hc
  rcases List.mem_append.mp hc with hc | hc
  · obtain rfl : c = '_' := by simpa using hc
    rfl
  · rw [Digest.short, String.toList_ofList] at hc
    exact Source.isAsciiWordChar_of_mem_hexChars (List.mem_of_mem_take hc)

theorem isAsciiWordChar_of_mem_threeDigits {n : Nat} {c : Char} (h : c ∈ (threeDigits n).toList) :
    isAsciiWordChar c = true := by
  apply Source.isAsciiWordChar_of_isDigit
  unfold threeDigits at h
  rw [String.toList_append, String.toList_ofList] at h
  rcases List.mem_append.mp h with hzero | hdigit
  · rw [List.eq_of_mem_replicate hzero]
    rfl
  · have hdigits : (toString n).toList = Nat.toDigits 10 n := Nat.toList_repr
    rw [hdigits] at hdigit
    exact Nat.isDigit_of_mem_toDigits (by decide) (by decide) hdigit

theorem isAsciiWordChar_of_mem_nameSuffix {slot : Slot} :
    ∀ c ∈ slot.nameSuffix.toList, isAsciiWordChar c = true := by
  have hall : slot.nameSuffix.toList.all isAsciiWordChar = true := by cases slot <;> decide
  exact List.all_eq_true.mp hall

theorem isIdentifier_placeName {place : Context}
    (hkey : ∀ key, place.key? = some key → isIdentifier (QualifiedName.bare key) = true)
    (hparent : ∀ parent, place.parent? = some parent → isIdentifier parent = true) :
    isIdentifier (placeName place) = true := by
  cases place with
  | root key slot =>
    cases slot with
    | value => simpa [placeName, Slot.nameSuffix] using hkey key rfl
    | mapKey =>
      exact Source.isIdentifier_append (hkey key rfl) isAsciiWordChar_of_mem_nameSuffix
        ⟨'K', by simp [Source.marks], by simp [Slot.nameSuffix]⟩
  | field parent index slot =>
    rw [placeName, String.append_assoc, String.append_assoc]
    refine Source.isIdentifier_append (hparent parent rfl) ?_ ⟨'I', by simp [Source.marks], by simp⟩
    intro c hc
    simp only [String.toList_append, List.mem_append] at hc
    rcases hc with hinline | hindex | hslot
    · have hall : "Inline".toList.all isAsciiWordChar = true := by decide
      exact List.all_eq_true.mp hall c hinline
    · exact isAsciiWordChar_of_mem_threeDigits hindex
    · exact isAsciiWordChar_of_mem_nameSuffix c hslot

theorem isIdentifier_candidate (hsources : ∀ q ∈ call.sources, isIdentifier (QualifiedName.bare q) = true)
    (hparent : ∀ parent, call.parent? = some parent → isIdentifier parent = true) :
    isIdentifier call.candidate = true := by
  cases call with
  | named q => exact hsources q (List.mem_singleton_self q)
  | inline parent index slot =>
    refine isIdentifier_placeName (by simp [Context.key?]) ?_
    rintro _ ⟨⟩
    exact hparent parent rfl
  | allocate q place =>
    rw [Call.sources] at hsources
    rw [Call.parent?] at hparent
    rw [Call.candidate]
    split
    · rename_i hempty
      rw [if_pos hempty] at hsources hparent
      exact isIdentifier_placeName (fun key hkey => hsources key (by simp [hkey])) hparent
    · rename_i hnamed
      rw [if_neg hnamed] at hsources
      exact hsources q (List.mem_singleton_self q)

/-! ## One call -/

theorem Chosen.name_eq {base seed : String} {refused : Bool} (h : a.Chosen refused base seed name) :
    name = base ∨ ∃ seed attempt, name = suffixedName base seed attempt := by
  cases h with
  | own _ hname => exact .inl hname
  | suffixed _ hsuffixed =>
    obtain ⟨k, rfl⟩ := exists_attempt_of_findSuffixed hsuffixed
    exact .inr ⟨seed, k, rfl⟩

theorem name_of_named {q : String} (h : a.named q = some (name, b)) :
    a.lookup? q = some name ∨ name = QualifiedName.bare q ∨
      ∃ seed attempt, name = suffixedName (QualifiedName.bare q) seed attempt := by
  cases hlookup : a.lookup? q with
  | some known =>
    rw [named_of_known hlookup] at h
    obtain ⟨rfl, -⟩ := Prod.mk.inj (Option.some.inj h)
    exact .inl rfl
  | none =>
    exact .inr (chosen_of_named hlookup h).1.name_eq

theorem name_of_synthetic {candidate seed : String} (h : a.synthetic candidate seed = some (name, b)) :
    name = candidate ∨ ∃ seed attempt, name = suffixedName candidate seed attempt :=
  (chosen_of_synthetic h).1.name_eq

theorem name_of_answer (h : a.answer call = some (name, b)) :
    (∃ q, a.lookup? q = some name) ∨ name = call.candidate ∨
      ∃ seed attempt, name = suffixedName call.candidate seed attempt := by
  rw [answer_eq] at h
  cases hsubject : call.subject? a with
  | some q =>
    rw [hsubject] at h
    rw [(Call.of_subject? hsubject).1]
    exact (name_of_named h).imp_left fun hknown => ⟨q, hknown⟩
  | none =>
    rw [hsubject] at h
    exact .inr (name_of_synthetic h)

/-- All that is handed out is an identifier. -/
structure Tidy (a : Allocator) : Prop where
  sound : a.Sound
  identifier : ∀ name ∈ a.reserved, isIdentifier name = true

theorem tidy_new (prereserved : List String) (tries : Nat) : (new prereserved tries).Tidy :=
  ⟨.new prereserved tries, by simp [new]⟩

theorem Tidy.name_isIdentifier (ha : a.Tidy) (h : a.answer call = some (name, b))
    (hsources : ∀ q ∈ call.sources, isIdentifier (QualifiedName.bare q) = true)
    (hparent : ∀ parent, call.parent? = some parent → parent ∈ a.reserved) : isIdentifier name = true := by
  have hcandidate : isIdentifier call.candidate = true :=
    isIdentifier_candidate hsources fun parent hp => ha.identifier parent (hparent parent hp)
  rcases name_of_answer h with ⟨q, hknown⟩ | rfl | ⟨seed, attempt, rfl⟩
  · exact ha.identifier name (ha.sound.mem_reserved hknown)
  · exact hcandidate
  · exact isIdentifier_suffixedName hcandidate seed attempt

theorem Tidy.answer (ha : a.Tidy) (h : a.answer call = some (name, b))
    (hsources : ∀ q ∈ call.sources, isIdentifier (QualifiedName.bare q) = true)
    (hparent : ∀ parent, call.parent? = some parent → parent ∈ a.reserved) : b.Tidy := by
  have hname := ha.name_isIdentifier h hsources hparent
  have hanswers := answers_of_answer h
  refine ⟨hanswers.sound ha.sound, ?_⟩
  cases hanswers with
  | known => exact ha.identifier
  | fresh => exact List.forall_mem_cons.mpr ⟨hname, ha.identifier⟩

/-! ## Histories -/

theorem History.tidy {prereserved : List String} {tries : Nat} {log : List Answer}
    (h : History prereserved tries log a) (hnested : Nested log)
    (hsources : ∀ e ∈ log, ∀ q ∈ e.call.sources, isIdentifier (QualifiedName.bare q) = true) : a.Tidy := by
  induction h with
  | start => exact tidy_new prereserved tries
  | @call log a b call name hlog hcall ih =>
    obtain ⟨hold, hlast⟩ := List.forall_mem_append.mp hsources
    obtain ⟨hearlier, hparent⟩ := nested_concat_iff.mp hnested
    refine (ih hearlier hold).answer hcall (List.forall_mem_singleton.mp hlast) ?_
    intro parent hp
    exact (hlog.mem_reserved_iff parent).mpr (hparent parent hp)

end Allocator

end Declgen
