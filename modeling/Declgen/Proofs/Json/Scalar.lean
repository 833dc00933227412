import Declgen.Json.Writer
import Declgen.Proofs.Json.Reader

/-!
# Strings and numbers read back

A string is read back from its escaped text. A number is read back from its text where nothing follows that
could go on with it: what a reader of numbers takes from a text, it takes where a delimiter follows.
-/

namespace Declgen

namespace Json

/-! ## Loops -/

section Loop

variable {σ : Type} {step : σ → Reader (σ × Bool)} {s t : σ} {cs rest : List Char}

theorem loop_of_last (h : step s cs = .ok ((t, true), rest)) (budget : List Char) :
    loop step budget s cs = .ok (t, rest) := by
  unfold loop
  rw [h]
  rfl

theorem loop_of_more (h : step s cs = .ok ((t, false), rest)) {n : Nat} {budget : List Char}
    (hbudget : n + 1 ≤ budget.length) :
    ∃ left, n ≤ left.length ∧ loop step budget s cs = loop step left t rest := by
  cases budget with
  | nil => simp at hbudget
  | cons b budget =>
    refine ⟨budget, Nat.le_of_succ_le_succ hbudget, ?_⟩
    rw [loop, h]
    rfl

end Loop

/-! ## Strings -/

theorem hexValue?_hexDigit : ∀ n, n < 16 → hexValue? (hexDigit n) = some n := by decide

theorem hexEscape_of_lt {n : Nat} (h : n < 256) (rest : List Char) :
    hexEscape ('0' :: '0' :: hexDigit (n / 16) :: hexDigit (n % 16) :: rest) = .ok (n, rest) := by
  have hhigh := hexValue?_hexDigit (n / 16) (by omega)
  have hlow := hexValue?_hexDigit (n % 16) (by omega)
  have hzero : hexValue? '0' = some 0 := by decide
  have hvalue : ((0 * 16 + 0) * 16 + n / 16) * 16 + n % 16 = n := by omega
  simp only [hexEscape, hzero, hhigh, hlow, hvalue]

theorem stringChar_control {c : Char} (h : c.toNat < 0x20) (rest : List Char) :
    stringChar ('\\' :: 'u' :: '0' :: '0' :: hexDigit (c.toNat / 16) :: hexDigit (c.toNat % 16) :: rest) =
      .ok (some c, rest) := by
  have htrail : isTrailSurrogate c.toNat = false := by
    unfold isTrailSurrogate
    simp only [Bool.and_eq_false_iff, decide_eq_false_iff_not]
    omega
  have hlead : isLeadSurrogate c.toNat = false := by
    unfold isLeadSurrogate
    simp only [Bool.and_eq_false_iff, decide_eq_false_iff_not]
    omega
  have hunicode : unicodeEscape ('0' :: '0' :: hexDigit (c.toNat / 16) :: hexDigit (c.toNat % 16) :: rest) =
      .ok (c, rest) := by
    unfold unicodeEscape
    rw [hexEscape_of_lt (by omega)]
    simp [htrail, hlead]
  simp only [stringChar, hunicode]
  rfl

theorem stringChar_plain {c : Char} (hquote : c ≠ '"') (hslash : c ≠ '\\') (h : ¬c.toNat < 0x20)
    (rest : List Char) : stringChar (c :: rest) = .ok (some c, rest) := by
  unfold stringChar
  split
  · contradiction
  · simp_all
  · simp_all
  · simp_all
  · simp_all
  · rename_i d ds hne _ _ _ heq
    obtain ⟨rfl, rfl⟩ := List.cons.inj heq
    exact if_neg h

theorem stringChar_escapeChar (c : Char) (rest : List Char) :
    stringChar (escapeChar c ++ rest) = .ok (some c, rest) := by
  unfold escapeChar
  split
  · subst c
    rfl
  split
  · subst c
    rfl
  split
  · subst c
    rfl
  split
  · subst c
    rfl
  split
  · subst c
    rfl
  split
  · subst c
    rfl
  split
  · subst c
    rfl
  split
  · exact stringChar_control ‹_› rest
  · exact stringChar_plain ‹_› ‹_› ‹_› rest

theorem loop_string (s rest : List Char) {budget : List Char} (hbudget : s.length ≤ budget.length)
    (sofar : List Char) :
    loop stringStep budget sofar (s.flatMap escapeChar ++ '"' :: rest) = .ok (s.reverse ++ sofar, rest) := by
  induction s generalizing budget sofar with
  | nil => exact loop_of_last rfl budget
  | cons c s ih =>
    have hstep : stringStep sofar (escapeChar c ++ (s.flatMap escapeChar ++ '"' :: rest)) =
        .ok ((c :: sofar, false), s.flatMap escapeChar ++ '"' :: rest) := by
      unfold stringStep
      rw [stringChar_escapeChar]
      rfl
    obtain ⟨left, hleft, hloop⟩ := loop_of_more hstep hbudget
    rw [List.flatMap_cons, List.append_assoc, hloop, ih hleft]
    simp

theorem length_le_escaped (s : List Char) : s.length ≤ (s.flatMap escapeChar).length := by
  induction s with
  | nil => exact Nat.le_refl _
  | cons c s ih =>
    have hc : 0 < (escapeChar c).length := by
      unfold escapeChar
      repeat' split
      all_goals simp
    rw [List.flatMap_cons, List.length_append, List.length_cons]
    omega

theorem string_writeString (s : String) (rest : List Char) :
    string (s.toList.flatMap escapeChar ++ '"' :: rest) = .ok (s, rest) := by
  have hlength := length_le_escaped s.toList
  unfold string
  rw [loop_string s.toList rest (by rw [List.length_append]; omega)]
  simp

/-! ## What follows a number -/

/-- No number goes on into `rest`. -/
def Delimited (rest : List Char) : Prop := ∀ c ∈ rest.head?, c.isDigit = false ∧ c ≠ '.' ∧ c ≠ 'e' ∧ c ≠ 'E'

theorem Delimited.nil : Delimited [] := by simp [Delimited]

theorem Delimited.cons {c : Char} (h : c.isDigit = false ∧ c ≠ '.' ∧ c ≠ 'e' ∧ c ≠ 'E') (rest : List Char) :
    Delimited (c :: rest) := by
  rintro d ⟨⟩
  exact h

/-- What the reader takes from a text, it takes from it where `tail` follows. -/
def Stable {α : Type} (reader : Reader α) (tail : List Char) : Prop :=
  ∀ cs a left, reader cs = .ok (a, left) → reader (cs ++ tail) = .ok (a, left ++ tail)

theorem Stable.bind {α β : Type} {reader : Reader α} {next : α → Reader β} {tail : List Char}
    (h : Stable reader tail) (hnext : ∀ a, Stable (next a) tail) :
    Stable (fun cs => reader cs >>= fun out => next out.1 out.2) tail := by
  intro cs b left hread
  obtain ⟨⟨a, rest⟩, ha, hb⟩ := bind_eq_ok_iff.mp hread
  exact bind_eq_ok_iff.mpr ⟨⟨a, rest ++ tail⟩, h _ _ _ ha, hnext a _ _ _ hb⟩

theorem Stable.pure {α : Type} (a : α) (tail : List Char) : Stable (fun cs => .ok (a, cs)) tail := by
  intro cs b left h
  obtain ⟨rfl, rfl⟩ := Prod.mk.inj (Except.ok.inj h)
  rfl

section Numbers

variable {tail : List Char} (htail : Delimited tail)
include htail

theorem takeWhile_isDigit_append (ds : List Char) :
    (ds ++ tail).takeWhile Char.isDigit = ds.takeWhile Char.isDigit ∧
      (ds ++ tail).dropWhile Char.isDigit = ds.dropWhile Char.isDigit ++ tail := by
  induction ds with
  | nil =>
    cases tail with
    | nil => exact ⟨rfl, rfl⟩
    | cons c tail =>
      have hc : c.isDigit = false := (htail c rfl).1
      simp [hc]
  | cons d ds ih =>
    cases hd : d.isDigit with
    | true => simpa [hd] using ih
    | false => simp [hd]

theorem stable_digits1 (atEnd : Fault) : Stable (digits1 atEnd) tail := by
  intro cs a left h
  unfold digits1 at h
  split at h
  · simp at h
  · rename_i c cs
    split at h
    · rename_i hc
      obtain ⟨rfl, rfl⟩ := Prod.mk.inj (Except.ok.inj h)
      obtain ⟨htake, hdrop⟩ := takeWhile_isDigit_append htail (c :: cs)
      rw [← htake, ← hdrop]
      exact if_pos hc
    · simp at h

theorem stable_wholeDigits (atEnd : Fault) : Stable (wholeDigits atEnd) tail := by
  intro cs a left h
  unfold wholeDigits at h
  split at h
  · rename_i c cs
    split at h
    · simp at h
    · rename_i hc
      obtain ⟨rfl, rfl⟩ := Prod.mk.inj (Except.ok.inj h)
      exact if_neg hc
  · rename_i hne
    have hmore := stable_digits1 htail atEnd _ _ _ h
    rcases cs with _ | ⟨c, _ | ⟨d, cs⟩⟩
    · simp [digits1] at h
    · by_cases hzero : c = '0'
      · -- A zero at the end of the text: what follows is no digit of it.
        subst c
        obtain ⟨rfl, rfl⟩ := Prod.mk.inj (Except.ok.inj h)
        cases tail with
        | nil => rfl
        | cons t tail =>
          have ht : t.isDigit = false := (htail t rfl).1
          exact if_neg (by simp [ht])
      · rw [List.cons_append, wholeDigits]
        · exact hmore
        · rintro _ _ heq
          exact hzero (List.cons.inj heq).1
    · rw [List.cons_append, wholeDigits]
      · exact hmore
      · rintro _ _ heq
        exact hne d cs (by rw [(List.cons.inj heq).1])

theorem stable_fractionDigits (atEnd : Fault) : Stable (fractionDigits atEnd) tail := by
  intro cs a left h
  cases cs with
  | nil =>
    obtain ⟨rfl, rfl⟩ := Prod.mk.inj (Except.ok.inj h)
    cases tail with
    | nil => rfl
    | cons t tail =>
      rw [List.nil_append, fractionDigits]
      rintro _ heq
      exact (htail t rfl).2.1 (List.cons.inj heq).1
  | cons c cs =>
    by_cases hpoint : c = '.'
    · subst c
      exact stable_digits1 htail atEnd _ _ _ h
    · rw [fractionDigits] at h
      · obtain ⟨rfl, rfl⟩ := Prod.mk.inj (Except.ok.inj h)
        rw [List.cons_append, fractionDigits]
        rintro _ heq
        exact hpoint (List.cons.inj heq).1
      · rintro _ heq
        exact hpoint (List.cons.inj heq).1

theorem stable_exponentPart (atEnd : Fault) : Stable (exponentPart atEnd) tail := by
  have hdigits : ∀ f : List Char → Option Int,
      Stable (fun cs => digits1 atEnd cs >>= fun out => .ok (f out.1, out.2)) tail := fun f =>
    (stable_digits1 htail atEnd).bind fun ds => .pure (f ds) tail
  intro cs a left h
  cases cs with
  | nil =>
    obtain ⟨rfl, rfl⟩ := Prod.mk.inj (Except.ok.inj h)
    cases tail with
    | nil => rfl
    | cons t tail =>
      obtain ⟨-, -, hlower, hupper⟩ := htail t rfl
      simp [exponentPart, hlower, hupper]
  | cons c cs =>
    simp only [exponentPart] at h
    simp only [List.cons_append, exponentPart]
    split at h
    · rename_i he
      rw [if_pos he]
      split at h
      · exact hdigits (fun ds => some (-(digitsValue ds : Int))) _ _ _ h
      · exact hdigits (fun ds => some (digitsValue ds : Int)) _ _ _ h
      · rename_i hminus hplus
        cases cs with
        | nil => simp [digits1] at h
        | cons d cs =>
          have hsigned := hdigits (fun ds => some (digitsValue ds : Int)) _ _ _ h
          rw [List.cons_append] at hsigned ⊢
          split
          · rename_i heq
            exact (hminus _ (congrArg (· :: cs) (List.cons.inj heq).1)).elim
          · rename_i heq
            exact (hplus _ (congrArg (· :: cs) (List.cons.inj heq).1)).elim
          · exact hsigned
    · rename_i he
      obtain ⟨rfl, rfl⟩ := Prod.mk.inj (Except.ok.inj h)
      rw [if_neg he]
      rfl

theorem stable_unsignedNumeral (atEnd : Fault) (negative : Bool) :
    Stable (unsignedNumeral atEnd negative) tail := by
  have hlast : ∀ whole fraction, Stable (fun cs => exponentPart atEnd cs >>= fun out =>
      .ok ((⟨negative, whole, fraction, out.1⟩ : Numeral), out.2)) tail := fun whole fraction =>
    (stable_exponentPart htail atEnd).bind fun exponent =>
      .pure (⟨negative, whole, fraction, exponent⟩ : Numeral) tail
  exact (stable_wholeDigits htail atEnd).bind fun whole =>
    (stable_fractionDigits htail atEnd).bind fun fraction => hlast whole fraction

theorem stable_numeral (atEnd : Fault) : Stable (numeral atEnd) tail := by
  intro cs a left h
  cases cs with
  | nil => simp [numeral, unsignedNumeral, wholeDigits, digits1] at h
  | cons c cs =>
    by_cases hminus : c = '-'
    · subst c
      exact stable_unsignedNumeral htail atEnd true _ _ _ h
    · rw [numeral] at h
      · rw [List.cons_append, numeral]
        · exact stable_unsignedNumeral htail atEnd false _ _ _ h
        · rintro _ heq
          exact hminus (List.cons.inj heq).1
      · rintro _ heq
        exact hminus (List.cons.inj heq).1

theorem stable_number : Stable number tail := by
  intro cs a left h
  obtain ⟨⟨x, rest⟩, hx, hout⟩ := bind_eq_ok_iff.mp h
  refine bind_eq_ok_iff.mpr ⟨⟨x, rest ++ tail⟩, stable_numeral htail _ _ _ _ hx, ?_⟩
  dsimp only at hout ⊢
  split at hout
  · obtain ⟨rfl, rfl⟩ := Prod.mk.inj (Except.ok.inj hout)
    rfl
  · simp at hout

end Numbers

/-! ## Integers -/

theorem digits1_of_all {ds : List Char} (hne : ds ≠ []) (h : ∀ c ∈ ds, c.isDigit = true) (atEnd : Fault) :
    digits1 atEnd ds = .ok (ds, []) := by
  cases ds with
  | nil => contradiction
  | cons c ds =>
    have htake : ((c :: ds) ++ []).takeWhile Char.isDigit = (c :: ds) ++ [] := List.takeWhile_append_of_pos h
    have hdrop : ((c :: ds) ++ []).dropWhile Char.isDigit = [] := List.dropWhile_append_of_pos h
    rw [List.append_nil] at htake hdrop
    rw [digits1, if_pos (h c List.mem_cons_self), htake, hdrop]

theorem head?_toDigits_ne_zero (n : Nat) (hpos : 0 < n) : (Nat.toDigits 10 n).head? ≠ some '0' := by
  induction n using Nat.strongRecOn with
  | ind n ih =>
    rw [Nat.toDigits_eq_if (by decide)]
    split
    · rename_i hlt
      have hsmall : ∀ d, d < 10 → 0 < d → [Nat.digitChar d].head? ≠ some '0' := by decide
      exact hsmall n hlt hpos
    · have hne : Nat.toDigits 10 (n / 10) ≠ [] := List.ne_nil_of_length_pos Nat.length_toDigits_pos
      have htens := ih (n / 10) (by omega) (by omega)
      cases hds : Nat.toDigits 10 (n / 10) with
      | nil => contradiction
      | cons d ds =>
        rw [hds] at htens
        exact htens

theorem wholeDigits_toDigits (n : Nat) (atEnd : Fault) :
    wholeDigits atEnd (Nat.toDigits 10 n) = .ok (Nat.toDigits 10 n, []) := by
  have hne : Nat.toDigits 10 n ≠ [] := List.ne_nil_of_length_pos Nat.length_toDigits_pos
  have hdigits : ∀ c ∈ Nat.toDigits 10 n, c.isDigit = true := fun c hc =>
    Nat.isDigit_of_mem_toDigits (by decide) (by decide) hc
  rw [wholeDigits]
  · exact digits1_of_all hne hdigits atEnd
  · intro c rest heq
    rcases Nat.eq_zero_or_pos n with rfl | hpos
    · simp [Nat.toDigits_of_lt_base] at heq
    · exact head?_toDigits_ne_zero n hpos (by rw [heq]; rfl)

theorem unsignedNumeral_toDigits (n : Nat) (atEnd : Fault) (negative : Bool) :
    unsignedNumeral atEnd negative (Nat.toDigits 10 n) = .ok (⟨negative, Nat.toDigits 10 n, [], none⟩, []) := by
  simp [unsignedNumeral, wholeDigits_toDigits, fractionDigits, exponentPart]

theorem le_ofDigitChars (ds : List Char) (n : Nat) : n ≤ Nat.ofDigitChars 10 ds n := by
  induction ds generalizing n with
  | nil => exact Nat.le_refl n
  | cons c ds ih =>
    have hrest := ih (10 * n + (c.toNat - '0'.toNat))
    rw [Nat.ofDigitChars_cons]
    omega

theorem appendDigits_of_lt {ds : List Char} {n : Nat} (h : Nat.ofDigitChars 10 ds n < Nat.pow 2 64) :
    appendDigits n ds = (Nat.ofDigitChars 10 ds n, []) := by
  induction ds generalizing n with
  | nil => rfl
  | cons c ds ih =>
    have hnext : n * 10 + digitValue c = 10 * n + (c.toNat - '0'.toNat) := by
      rw [Nat.mul_comm]
      rfl
    rw [Nat.ofDigitChars_cons] at h ⊢
    have hle := le_ofDigitChars ds (10 * n + (c.toNat - '0'.toNat))
    rw [appendDigits, hnext, if_pos (Nat.lt_of_le_of_lt hle h), ih h]

theorem number?_toDigits (negative : Bool) {n : Nat} (hlt : n < Nat.pow 2 64)
    (hfits : Number.fitsInteger (if negative then -(n : Int) else n) = true)
    (hsign : negative = true → n ≠ 0) :
    Numeral.number? ⟨negative, Nat.toDigits 10 n, [], none⟩ = some (.int (if negative then -(n : Int) else n)) := by
  have hvalue : Nat.ofDigitChars 10 (Nat.toDigits 10 n) 0 = n := Nat.ofDigitChars_toDigits (by decide) (by decide)
  have happend : appendDigits 0 (Nat.toDigits 10 n) = (n, []) := by
    rw [appendDigits_of_lt (by rw [hvalue]; exact hlt), hvalue]
  have hzero : (negative && decide (n = 0)) = false := by
    cases negative with
    | false => rfl
    | true => simpa using hsign rfl
  simp [Numeral.number?, happend, hfits, hzero]

theorem number_int {n : Int} (h : Number.fitsInteger n = true) :
    number (toString n).toList = .ok (.int n, []) := by
  have hbounds : -(Nat.pow 2 63 : Int) ≤ n ∧ n < (Nat.pow 2 64 : Int) := by
    simpa [Number.fitsInteger] using h
  rw [Int.toString_eq_repr, Int.repr_eq_if]
  split
  · rename_i hnonneg
    obtain ⟨k, rfl⟩ := Int.eq_ofNat_of_zero_le hnonneg
    have hlt : k < Nat.pow 2 64 := Int.ofNat_lt.mp hbounds.2
    have hnumber := number?_toDigits false hlt h (by simp)
    have hnumeral : numeral (.ended .value) (Nat.toDigits 10 k) =
        .ok (⟨false, Nat.toDigits 10 k, [], none⟩, []) := by
      rw [numeral]
      · exact unsignedNumeral_toDigits k _ false
      · intro rest heq
        have hmem : '-' ∈ Nat.toDigits 10 k := by rw [heq]; exact List.mem_cons_self
        exact absurd (Nat.isDigit_of_mem_toDigits (by decide) (by decide) hmem) (by decide)
    rw [Int.toNat_natCast, Nat.toList_repr]
    unfold number
    simp [hnumeral, hnumber]
  · rename_i hneg
    obtain ⟨k, hk⟩ : ∃ k : Nat, n = -(k : Int) := ⟨n.natAbs, by omega⟩
    subst hk
    have hpos : k ≠ 0 := by omega
    have hlt : k < Nat.pow 2 64 := by
      have := hbounds.1
      simp only [Nat.pow_eq] at this ⊢
      omega
    have hnumber := number?_toDigits true hlt h fun _ => hpos
    rw [Int.neg_neg, Int.toNat_natCast, String.toList_append, Nat.toList_repr]
    unfold number
    simp [numeral, unsignedNumeral_toDigits, hnumber]

end Json

/-- The number is one of a document: an integer that fits 64 bits, or a double that reads back from its own
text. Not every double does, since reading may round in the last bit. -/
def Number.ReadsBack : Number → Prop
  | .int n => Number.fitsInteger n = true
  | .float x => Json.number x.chars = .ok (.float x, [])

namespace Json

theorem number_chars {x : Number} (h : x.ReadsBack) {rest : List Char} (hrest : Delimited rest) :
    number (x.chars ++ rest) = .ok (x, rest) := by
  cases x with
  | int n => exact stable_number hrest _ _ _ (number_int h)
  | float x => exact stable_number hrest _ _ _ h

end Json

end Declgen
