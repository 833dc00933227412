import Declgen.Override
import Declgen.Proofs.Naming.History

/-!
# Where names come from

A name that is handed out is the identifier of a qualified name that the allocator was asked for, or it is made
up: from an identifier and `Key`, from a parent and `Inline`, or with digits of a digest at the end. What is
made up can be told by its characters, and is bound to nothing elsewhere.
-/

namespace Declgen

/-! ## Digests -/

namespace Digest

def isHex (c : Char) : Bool := c.isDigit || 'a' ≤ c && c ≤ 'f'

theorem isHex_hexDigit : ∀ n, n < 16 → isHex (hexDigit n) = true := by decide

theorem exists_hexDigit_of_mem_hexChars {text : String} {c : Char} (h : c ∈ hexChars text) :
    ∃ d < 16, hexDigit d = c := by
  obtain ⟨w, -, hc⟩ := List.mem_flatMap.mp h
  obtain ⟨shift, -, rfl⟩ := List.mem_map.mp hc
  exact ⟨_, Nat.mod_lt _ (by decide), rfl⟩

theorem isHex_of_mem_hexChars {text : String} {c : Char} (h : c ∈ hexChars text) : isHex c = true := by
  obtain ⟨d, hd, rfl⟩ := exists_hexDigit_of_mem_hexChars h
  exact isHex_hexDigit d hd

theorem length_hexChars (text : String) : (hexChars text).length = 64 := by
  unfold hexChars hash Chain.words
  simp [hexOfWord]

theorem length_short (text : String) {n : Nat} (h : n ≤ 64) : (short text n).toList.length = n := by
  rw [short, String.toList_ofList, List.length_take, length_hexChars]
  omega

theorem isHex_of_mem_short {text : String} {n : Nat} {c : Char} (h : c ∈ (short text n).toList) :
    isHex c = true := by
  rw [short, String.toList_ofList] at h
  exact isHex_of_mem_hexChars (List.mem_of_mem_take h)

/-- All texts of `n` digits. -/
def texts : Nat → List (List Char)
  | 0 => [[]]
  | n + 1 => (texts n).flatMap fun cs => (List.range 16).map fun d => hexDigit d :: cs

theorem mem_texts {cs : List Char} (h : ∀ c ∈ cs, ∃ d < 16, hexDigit d = c) : cs ∈ texts cs.length := by
  induction cs with
  | nil => simp [texts]
  | cons c rest ih =>
    obtain ⟨hc, hrest⟩ := List.forall_mem_cons.mp h
    obtain ⟨d, hd, rfl⟩ := hc
    exact List.mem_flatMap.mpr ⟨rest, ih hrest, List.mem_map_of_mem (List.mem_range.mpr hd)⟩

theorem isHex_of_mem_texts {n : Nat} {cs : List Char} (h : cs ∈ texts n) : ∀ c ∈ cs, isHex c = true := by
  induction n generalizing cs with
  | zero =>
    obtain rfl := List.mem_singleton.mp h
    simp
  | succ n ih =>
    obtain ⟨rest, hrest, h⟩ := List.mem_flatMap.mp h
    obtain ⟨d, hd, rfl⟩ := List.mem_map.mp h
    exact List.forall_mem_cons.mpr ⟨isHex_hexDigit d (List.mem_range.mp hd), ih hrest⟩

theorem short_mem_texts (text : String) {n : Nat} (h : n ≤ 64) : (short text n).toList ∈ texts n := by
  have hmem : (short text n).toList ∈ texts (short text n).toList.length := by
    refine mem_texts fun c hc => ?_
    rw [short, String.toList_ofList] at hc
    exact exists_hexDigit_of_mem_hexChars (List.mem_of_mem_take hc)
  rwa [length_short text h] at hmem

end Digest

/-! ## Names that are made up -/

/-- The name holds a letter of `Key` or of `Inline` that nothing else that is written unasked holds, or it ends
in an underscore and four digits of a digest. -/
def looksMadeUp (name : String) : Bool :=
  name.toList.contains 'I' || name.toList.contains 'K' ||
    match name.toList.reverse with
    | a :: b :: c :: d :: '_' :: _ => [a, b, c, d].all Digest.isHex
    | _ => false

namespace Allocator

theorem looksMadeUp_of_mem {name : String} {c : Char} (hc : c = 'I' ∨ c = 'K') (h : c ∈ name.toList) :
    looksMadeUp name = true := by
  rcases hc with rfl | rfl <;> simp [looksMadeUp, h]

theorem looksMadeUp_suffixedName (base seed : String) (attempt : Nat) :
    looksMadeUp (suffixedName base seed attempt) = true := by
  have hlength : (Digest.short (salted seed attempt) suffixLength).toList.reverse.length = 4 := by
    rw [List.length_reverse]
    exact Digest.length_short _ (by decide)
  have hhex : ∀ c ∈ (Digest.short (salted seed attempt) suffixLength).toList.reverse,
      Digest.isHex c = true := fun c hc => Digest.isHex_of_mem_short (List.mem_reverse.mp hc)
  have hreverse : (suffixedName base seed attempt).toList.reverse =
      (Digest.short (salted seed attempt) suffixLength).toList.reverse ++ '_' :: base.toList.reverse := by
    simp [suffixedName]
  unfold looksMadeUp
  rw [hreverse]
  generalize (Digest.short (salted seed attempt) suffixLength).toList.reverse = digits at hlength hhex ⊢
  obtain ⟨a, b, c, d, rfl⟩ : ∃ a b c d, digits = [a, b, c, d] := by
    rcases digits with _ | ⟨a, _ | ⟨b, _ | ⟨c, _ | ⟨d, _ | ⟨e, rest⟩⟩⟩⟩⟩
    case cons.cons.cons.cons.nil => exact ⟨a, b, c, d, rfl⟩
    all_goals simp at hlength
  have hall : [a, b, c, d].all Digest.isHex = true := List.all_eq_true.mpr hhex
  simp only [List.cons_append, List.nil_append, hall, Bool.or_true]

/-- A name with a suffix, the name of a map key, or that of a part of another type. -/
inductive MadeUp : String → Prop where
  | suffixed (base seed : String) (attempt : Nat) : MadeUp (suffixedName base seed attempt)
  | key (base : String) : MadeUp (base ++ Slot.mapKey.nameSuffix)
  | inline (parent : String) (index : Nat) (slot : Slot) : MadeUp (placeName (.field parent index slot))

theorem MadeUp.looksMadeUp {name : String} (h : MadeUp name) : looksMadeUp name = true := by
  cases h with
  | suffixed base seed attempt => exact looksMadeUp_suffixedName base seed attempt
  | key base => exact looksMadeUp_of_mem (.inr rfl) (by simp [Slot.nameSuffix])
  | inline parent index slot => exact looksMadeUp_of_mem (.inl rfl) (by simp [placeName])

/-! ## Origins -/

/-- The name is the identifier of one of the `sources`, bound to no other name elsewhere, or it is made up and bound
to none. -/
inductive Origin (a : Allocator) (sources : List String) (name : String) : Prop where
  | own {q : String} : q ∈ sources → name = QualifiedName.bare q →
      (∀ owner, a.owner? name = some owner → owner = q) → Origin a sources name
  | madeUp : MadeUp name → a.owner? name = none → Origin a sources name

variable {a b : Allocator} {call : Call} {sources : List String} {name : String}

theorem Origin.congr (h : a.prereserved = b.prereserved) (horigin : a.Origin sources name) :
    b.Origin sources name := by
  have howner : b.owner? name = a.owner? name := by simp only [owner?, h]
  cases horigin with
  | own hq hname hown => exact .own hq hname (howner ▸ hown)
  | madeUp hmade hfree => exact .madeUp hmade (howner.trans hfree)

theorem suffixed_eq_none {base : String}
    (h : ∀ digits ∈ Digest.texts suffixLength, a.isTaken (base ++ "_" ++ String.ofList digits) = true)
    (seed : String) : a.suffixed base seed = none := by
  refine findSuffixed_eq_none_iff.mpr fun k _ => ?_
  have htaken := h _ (Digest.short_mem_texts (salted seed (1 + k)) (by decide))
  rwa [String.ofList_toList] at htaken

theorem exists_owner {q : String} (h : q ∈ a.prereserved) :
    ∃ owner ∈ a.prereserved, a.owner? (QualifiedName.bare q) = some owner := by
  have hfound : (a.owner? (QualifiedName.bare q)).isSome = true :=
    List.find?_isSome.mpr ⟨q, List.mem_reverse.mpr h, beq_self_eq_true _⟩
  obtain ⟨owner, howner⟩ := Option.isSome_iff_exists.mp hfound
  exact ⟨owner, List.mem_reverse.mp (List.mem_of_find?_eq_some howner), howner⟩

theorem isTaken_of_prereserved {q : String} (h : q ∈ a.prereserved) :
    a.isTaken (QualifiedName.bare q) = true := by
  obtain ⟨owner, -, howner⟩ := exists_owner h
  simp [isTaken, howner]

theorem isClaimed_of_prereserved {q r : String} (hr : r ∈ a.prereserved)
    (hbare : QualifiedName.bare r = QualifiedName.bare q) (hq : q ∉ a.prereserved) : a.isClaimed q = true := by
  obtain ⟨owner, hmem, howner⟩ := exists_owner hr
  have hne : owner ≠ q := fun h => hq (h ▸ hmem)
  rw [hbare] at howner
  simp [isClaimed, howner, hne]

theorem owner_eq_of_isClaimed {q : String} (h : a.isClaimed q = false) :
    ∀ owner, a.owner? (QualifiedName.bare q) = some owner → owner = q := by
  intro owner howner
  simp only [isClaimed, Bool.or_eq_false_iff] at h
  simpa [howner] using h.1

theorem owner?_of_isTaken (h : a.isTaken name = false) : a.owner? name = none := by
  simp only [isTaken, Bool.or_eq_false_iff] at h
  exact Option.not_isSome_iff_eq_none.mp (by simp [h.2])

theorem origin_of_suffixed {base seed : String} (h : a.suffixed base seed = some name) : a.Origin sources name := by
  have hfree := owner?_of_isTaken (isTaken_findSuffixed h)
  obtain ⟨k, rfl⟩ := exists_attempt_of_findSuffixed h
  exact .madeUp (.suffixed base seed k) hfree

theorem origin_candidate (hsources : call.sources ⊆ sources) (hsubject : call.subject? a = none)
    (hfree : a.owner? call.candidate = none) : a.Origin sources call.candidate := by
  cases call with
  | named => simp [Call.subject?] at hsubject
  | inline parent index slot => exact .madeUp (.inline parent index slot) hfree
  | allocate qualified place =>
    have hempty : qualified.isEmpty = true := by
      cases hnamed : qualified.isEmpty with
      | true => rfl
      | false => simp [Call.subject?, subject?, hnamed] at hsubject
    simp only [Call.candidate, Call.sources, if_pos hempty] at hsources hfree ⊢
    cases place with
    | field parent index slot => exact .madeUp (.inline parent index slot) hfree
    | root key slot =>
      cases slot with
      | value =>
        exact .own (hsources (List.mem_singleton_self key)) (by simp [placeName, Slot.nameSuffix]) (by simp [hfree])
      | mapKey => exact .madeUp (.key (QualifiedName.bare key)) hfree

theorem origin_of_answer (hsources : call.sources ⊆ sources) (h : a.answer call = some (name, b)) :
    ∀ n ∈ b.reserved, n ∈ a.reserved ∨ a.Origin sources n := by
  have hadd {subject? : Option String} (horigin : a.Origin sources name) :
      ∀ n ∈ (a.handOut subject? name).reserved, n ∈ a.reserved ∨ a.Origin sources n :=
    List.forall_mem_cons.mpr ⟨.inr horigin, fun n hn => .inl hn⟩
  rw [answer_eq] at h
  cases hsubject : call.subject? a with
  | none =>
    rw [hsubject] at h
    obtain ⟨hchosen, rfl⟩ := chosen_of_synthetic h
    refine hadd ?_
    cases hchosen with
    | suffixed _ hsuffixed => exact origin_of_suffixed hsuffixed
    | own hfree hname =>
      rw [hname]
      exact origin_candidate hsources hsubject (owner?_of_isTaken hfree)
  | some q =>
    rw [hsubject, Option.elim_some] at h
    cases hlookup : a.lookup? q with
    | some known =>
      rw [named_of_known hlookup] at h
      obtain ⟨rfl, rfl⟩ := Prod.mk.inj (Option.some.inj h)
      exact fun n hn => .inl hn
    | none =>
      obtain ⟨hchosen, rfl⟩ := chosen_of_named hlookup h
      refine hadd ?_
      cases hchosen with
      | suffixed _ hsuffixed => exact origin_of_suffixed hsuffixed
      | own hfree hname =>
        rw [hname]
        exact .own (hsources (Call.of_subject? hsubject).2) rfl (owner_eq_of_isClaimed hfree)

theorem History.origin {prereserved : List String} {tries : Nat} {log : List Answer}
    (h : History prereserved tries log a) (hsources : ∀ e ∈ log, e.call.sources ⊆ sources) :
    ∀ n ∈ a.reserved, (new prereserved tries).Origin sources n := by
  induction h with
  | start => simp [new]
  | @call log a b call name hlog hcall ih =>
    obtain ⟨hold, hlast⟩ := List.forall_mem_append.mp hsources
    intro n hn
    rcases origin_of_answer (hlast _ (List.mem_singleton_self _)) hcall n hn with hearlier | horigin
    · exact ih hold n hearlier
    · exact horigin.congr hlog.prereserved_eq

end Allocator

end Declgen
