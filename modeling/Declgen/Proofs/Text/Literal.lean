import Declgen.Text.Unquoted
import Mathlib.Tactic.SplitIfs

/-!
# Literals of strings

What a string literal may look like and what it says, a rule for each form that a character can have. Every text has
a literal, whatever characters are in it, and no literal says two texts.
-/

namespace Declgen.Text

/-! ## The grammar -/

/-- A backslash and the first letter say the second. -/
inductive Letter : Char → Char → Prop where
  | quote : Letter '"' '"'
  | apostrophe : Letter '\'' '\''
  | backslash : Letter '\\' '\\'
  | newline : Letter 'n' '\n'
  | return : Letter 'r' '\r'
  | tab : Letter 't' '\t'
  | nul : Letter '0' '\x00'

/-- One to six hexadecimal digits, with underscores behind any of them. -/
structure Digits (ds : List Char) (n : Nat) : Prop where
  first : ds.head?.any isHex = true
  only : ∀ d ∈ ds, isHex d = true ∨ d = '_'
  few : (ds.filter isHex).length ≤ 6
  value : hexValue (ds.filter isHex) = n

/-- The characters between two quotes, and the text that they say. -/
inductive Spells : List Char → List Char → Prop where
  | nil : Spells [] []
  | plain {c cs ds} : c ≠ '"' → c ≠ '\\' → c ≠ '\r' → Spells cs ds → Spells (c :: cs) (c :: ds)
  | letter {c d cs ds} : Letter c d → Spells cs ds → Spells ('\\' :: c :: cs) (d :: ds)
  | byte {a b cs ds} : isOctalDigit a = true → isHex b = true → Spells cs ds →
    Spells ('\\' :: 'x' :: a :: b :: cs) (Char.ofNat (hexValue [a, b]) :: ds)
  | number {ns c cs ds} : Digits ns (Char.toNat c) → Spells cs ds →
    Spells ('\\' :: 'u' :: '\x7b' :: (ns ++ '\x7d' :: cs)) (c :: ds)
  | lineEnd {blanks cs ds} : (∀ b ∈ blanks, isLineBlank b = true) → cs.head?.all (!isLineBlank ·) = true →
    Spells cs ds → Spells ('\\' :: '\n' :: (blanks ++ cs)) ds

def StringLiteral (literal s : String) : Prop := ∃ cs, literal.toList = '"' :: cs ++ ['"'] ∧ Spells cs s.toList

/-! ## A literal says one text -/

/-- The reader takes `es` for `c` in one step, and leaves what follows as it is. -/
def Says (es : List Char) (c : Char) : Prop :=
  ∀ b budget rest, unquotedBody (b :: budget) (es ++ rest) = (unquotedBody budget rest).map (c :: ·)

theorem says_of_escaped? {es : List Char} {c : Char} (h : ∀ rest, escaped? (es ++ rest) = some ([c], rest)) :
    Says ('\\' :: es) c := by
  intro b budget rest
  rw [List.cons_append, unquotedBody, h]
  rfl

theorem says_self {c : Char} (hquote : c ≠ '"') (hescape : c ≠ '\\') (hreturn : c ≠ '\r') : Says [c] c := by
  intro b budget rest
  rw [List.singleton_append, unquotedBody]
  · rintro rfl
    contradiction
  · exact fun _ h _ => hreturn h
  · exact hescape

theorem says_letter {c d : Char} (h : Letter c d) : Says ['\\', c] d := by
  refine says_of_escaped? fun rest => ?_
  cases h <;> rfl

theorem bracedNumber?_of_digits {ds : List Char} {n : Nat} (h : Digits ds n) (rest : List Char) :
    bracedNumber? ('\x7b' :: (ds ++ '\x7d' :: rest)) = some (n, rest) := by
  have hinside : ∀ d ∈ ds, (d != '\x7d') = true := by
    intro d hd
    rw [bne_iff_ne]
    rintro rfl
    exact (h.only _ hd).elim (absurd · (by decide)) (absurd · (by decide))
  have hdrop : (ds ++ '\x7d' :: rest).dropWhile (· != '\x7d') = '\x7d' :: rest := by
    rw [List.dropWhile_append_of_pos hinside]
    rfl
  have htake : (ds ++ '\x7d' :: rest).takeWhile (· != '\x7d') = ds := by
    rw [List.takeWhile_append_of_pos hinside]
    simp
  simp only [bracedNumber?, hdrop, htake, h.value]

theorem says_digits {ns : List Char} {c : Char} (h : Digits ns c.toNat) :
    Says ('\\' :: 'u' :: '\x7b' :: (ns ++ ['\x7d'])) c := by
  refine says_of_escaped? fun rest => ?_
  simp [escaped?, bracedNumber?_of_digits h]

theorem Says.step {es cs ds : List Char} {c b : Char} {budget : List Char} (h : Says es c)
    (hrest : unquotedBody budget (cs ++ ['"']) = some ds) :
    unquotedBody (b :: budget) (es ++ (cs ++ ['"'])) = some (c :: ds) := by
  rw [h, hrest]
  rfl

theorem unquotedBody_lineEnd {blanks cs : List Char} (hblanks : ∀ b ∈ blanks, isLineBlank b = true)
    (hnext : cs.head?.all (!isLineBlank ·) = true) (b : Char) (budget : List Char) :
    unquotedBody (b :: budget) ('\\' :: '\n' :: (blanks ++ cs ++ ['"'])) = unquotedBody budget (cs ++ ['"']) := by
  have hdrop : (cs ++ ['"']).dropWhile isLineBlank = cs ++ ['"'] := by
    cases cs with
    | nil => rfl
    | cons c cs =>
      have hc : isLineBlank c = false := by simpa using hnext
      simp [hc]
  have hread : escaped? ('\n' :: (blanks ++ cs ++ ['"'])) = some ([], cs ++ ['"']) := by
    rw [escaped?, List.append_assoc, List.dropWhile_append_of_pos hblanks, hdrop]
    · rfl
    all_goals simp
  rw [unquotedBody]
  simp only [hread, List.nil_append, Option.map_id']

theorem Spells.unquotedBody {cs ds : List Char} (h : Spells cs ds) {budget : List Char}
    (hbudget : cs.length < budget.length) : unquotedBody budget (cs ++ ['"']) = some ds := by
  -- Each rule is one step of the reader, and takes at least one character.
  induction h generalizing budget with
  | nil =>
    obtain ⟨b, budget, rfl⟩ := List.exists_cons_of_length_pos hbudget
    rfl
  | plain hquote hescape hreturn _ ih =>
    obtain ⟨b, budget, rfl⟩ := List.exists_cons_of_length_pos (Nat.zero_lt_of_lt hbudget)
    exact (says_self hquote hescape hreturn).step (ih (by simp at hbudget; omega))
  | letter hletter _ ih =>
    obtain ⟨b, budget, rfl⟩ := List.exists_cons_of_length_pos (Nat.zero_lt_of_lt hbudget)
    exact (says_letter hletter).step (ih (by simp at hbudget; omega))
  | @byte a d _ _ _ _ _ ih =>
    obtain ⟨b, budget, rfl⟩ := List.exists_cons_of_length_pos (Nat.zero_lt_of_lt hbudget)
    have hbyte : Says ['\\', 'x', a, d] (Char.ofNat (hexValue [a, d])) := says_of_escaped? fun _ => rfl
    exact hbyte.step (ih (by simp at hbudget; omega))
  | @number ns c cs _ hdigits _ ih =>
    obtain ⟨b, budget, rfl⟩ := List.exists_cons_of_length_pos (Nat.zero_lt_of_lt hbudget)
    have hrest := @ih budget (by simp at hbudget; omega)
    simpa using (says_digits hdigits).step (b := b) hrest
  | @lineEnd blanks cs _ hblanks hnext _ ih =>
    obtain ⟨b, budget, rfl⟩ := List.exists_cons_of_length_pos (Nat.zero_lt_of_lt hbudget)
    have hstep := unquotedBody_lineEnd hblanks hnext b budget
    rw [ih (by simp at hbudget; omega)] at hstep
    simpa using hstep

theorem StringLiteral.unquoted? {literal s : String} (h : StringLiteral literal s) : unquoted? literal = some s := by
  obtain ⟨cs, hliteral, hspells⟩ := h
  have hbody : Text.unquotedBody ('"' :: (cs ++ ['"'])) (cs ++ ['"']) = some s.toList :=
    hspells.unquotedBody (by simp only [List.length_cons, List.length_append]; omega)
  rw [Text.unquoted?, hliteral]
  simp only [List.cons_append, hbody, Option.map_some, String.ofList_toList]

theorem StringLiteral.unique {literal s t : String} (hs : StringLiteral literal s) (ht : StringLiteral literal t) :
    s = t :=
  Option.some.inj (hs.unquoted?.symm.trans ht.unquoted?)

/-! ## Hexadecimal digits -/

theorem hexValue_concat (ds : List Char) (d : Char) : hexValue (ds ++ [d]) = hexValue ds * 16 + hexValue [d] := by
  simp [hexValue]

theorem hexValue_digitChar : ∀ d, d < 16 → hexValue [Nat.digitChar d] = d := by decide

theorem isHex_digitChar : ∀ d, d < 16 → isHex (Nat.digitChar d) = true := by decide

theorem hexValue_hexDigits (n : Nat) : hexValue (hexDigits n) = n := by
  induction n using Nat.strongRecOn with
  | ind n ih =>
    rw [hexDigits, Nat.toDigits_eq_if (by decide)]
    split
    · exact hexValue_digitChar n ‹_›
    · rw [hexValue_concat, hexValue_digitChar _ (Nat.mod_lt n (by decide)), ← hexDigits, ih (n / 16) (by omega)]
      omega

theorem isHex_of_mem_hexDigits {n : Nat} {c : Char} (h : c ∈ hexDigits n) : isHex c = true := by
  induction n using Nat.strongRecOn with
  | ind n ih =>
    rw [hexDigits, Nat.toDigits_eq_if (by decide)] at h
    split at h
    · obtain rfl := List.mem_singleton.mp h
      exact isHex_digitChar n ‹_›
    · rcases List.mem_append.mp h with h | h
      · exact ih (n / 16) (by omega) h
      · obtain rfl := List.mem_singleton.mp h
        exact isHex_digitChar _ (Nat.mod_lt n (by decide))

theorem digits_hexDigits (c : Char) : Digits (hexDigits c.toNat) c.toNat := by
  have hhex : ∀ d ∈ hexDigits c.toNat, isHex d = true := fun d hd => isHex_of_mem_hexDigits hd
  have hfilter : (hexDigits c.toNat).filter isHex = hexDigits c.toNat := List.filter_eq_self.mpr hhex
  refine ⟨?_, fun d hd => .inl (hhex d hd), ?_, ?_⟩
  · obtain ⟨d, rest, hcons⟩ := List.exists_cons_of_length_pos (Nat.length_toDigits_pos (b := 16) (n := c.toNat))
    have hd := hhex d (by simp [hexDigits, hcons])
    simp [hexDigits, hcons, hd]
  · rw [hfilter]
    have hlt : c.toNat < 16 ^ 6 := by
      rcases c.valid with h | ⟨-, h⟩
      · exact Nat.lt_trans h (by decide)
      · exact Nat.lt_trans h (by decide)
    exact (Nat.length_toDigits_le_iff (by decide) (by decide)).mpr hlt
  · rw [hfilter, hexValue_hexDigits]

/-! ## Every text has a literal -/

theorem spells_escapeChar (c : Char) {cs ds : List Char} (h : Spells cs ds) :
    Spells (escapeChar c ++ cs) (c :: ds) := by
  unfold escapeChar
  split_ifs with hquote hescape hline hreturn htab hnul hhidden
  · subst hquote
    exact .letter .quote h
  · subst hescape
    exact .letter .backslash h
  · subst hline
    exact .letter .newline h
  · subst hreturn
    exact .letter .return h
  · subst htab
    exact .letter .tab h
  · subst hnul
    exact .letter .nul h
  · simpa using Spells.number (digits_hexDigits c) h
  · exact .plain hquote hescape hreturn h

theorem spells_literalBody (cs : List Char) : Spells (literalBody cs) cs := by
  induction cs with
  | nil => exact .nil
  | cons c cs ih =>
    rw [literalBody]
    split
    · rename_i hnul
      obtain ⟨rfl, -⟩ : c = '\x00' ∧ cs.head?.any isOctalDigit = true := by simpa using hnul
      exact .byte (a := '0') (b := '0') rfl rfl ih
    · exact spells_escapeChar c ih

theorem stringLiteral_literal (s : String) : StringLiteral (literal s) s :=
  ⟨literalBody s.toList, String.toList_ofList, spells_literalBody s.toList⟩

theorem stringLiteral_literal_iff {s t : String} : StringLiteral (literal s) t ↔ t = s := by
  constructor
  · intro h
    exact h.unique (stringLiteral_literal s)
  · rintro rfl
    exact stringLiteral_literal t

theorem unquoted?_literal (s : String) : unquoted? (literal s) = some s := (stringLiteral_literal s).unquoted?

end Declgen.Text
