import Declgen.Proofs.Render.File
import Declgen.Proofs.Text.Literal

/-!
# Values of constants

A constant says the value that the model gives: a string in a literal, an integer in decimal digits with a minus sign
or without one. An integer goes into a block only where its type holds it.
-/

namespace Declgen

/-! ## Ranges -/

/-- The integers of the type that stands for the representation. A pointer has the range of 64 bits. -/
def Representation.Contains : Representation → Int → Prop
  | .int8, n => Int8.minValue.toInt ≤ n ∧ n ≤ Int8.maxValue.toInt
  | .int16, n => Int16.minValue.toInt ≤ n ∧ n ≤ Int16.maxValue.toInt
  | .int32, n => Int32.minValue.toInt ≤ n ∧ n ≤ Int32.maxValue.toInt
  | .int, n | .int64, n => Int64.minValue.toInt ≤ n ∧ n ≤ Int64.maxValue.toInt
  | .uint8, n => 0 ≤ n ∧ n < UInt8.size
  | .uint16, n => 0 ≤ n ∧ n < UInt16.size
  | .uint32, n => 0 ≤ n ∧ n < UInt32.size
  | .uint, n | .uint64, n | .uintptr, n => 0 ≤ n ∧ n < UInt64.size
  | .float32, _ | .float64, _ => False

namespace Render

open Source (Expr Token Parser)
open Source.Parser (Yields)

variable {repr : Representation} {base : Primitive} {value : ConstantValue} {n : Int}

theorem holds_iff : holds repr n = true ↔ repr.Contains n := by
  cases repr with
  | int8 | int16 | int32 | int64 | int =>
    simp only [holds, Representation.bounds?, Option.any_some, Bool.and_eq_true, decide_eq_true_eq]
    exact Iff.rfl
  | uint8 | uint16 | uint32 | uint64 | uint | uintptr =>
    simp only [holds, Representation.bounds?, Option.any_some, Bool.and_eq_true, decide_eq_true_eq]
    exact and_congr_right' Int.le_sub_one_iff
  | float32 | float64 => exact Bool.false_eq_true ▸ Iff.rfl

/-! ## Integers -/

def IsDecimal (text : String) (n : Nat) : Prop :=
  text.toList ≠ [] ∧ (∀ c ∈ text.toList, c.isDigit = true) ∧ Nat.ofDigitChars 10 text.toList 0 = n

theorem isDecimal_toString (n : Nat) : IsDecimal (toString n) n := by
  have hdigits : (toString n).toList = Nat.toDigits 10 n := Nat.toList_repr
  rw [IsDecimal, hdigits]
  refine ⟨List.ne_nil_of_length_pos Nat.length_toDigits_pos, fun c hc => ?_, ?_⟩
  · exact Nat.isDigit_of_mem_toDigits (by decide) (by decide) hc
  · exact Nat.ofDigitChars_toDigits (by decide) (by decide)

/-- Decimal digits, with a minus sign or without one, and the integer that they stand for. -/
inductive IsInteger : Expr → Int → Prop where
  | plain {text n} : IsDecimal text n → IsInteger (.literal text) n
  | negated {text n} : IsDecimal text n → IsInteger (.unary '-' (.literal text)) (-n)

theorem integerTokens_yields (n : Int) (depth : Nat) (rest : List Token) :
    Yields (Parser.exprAt (depth + 1) true 0) (integerTokens n) (.sign ';' :: rest) (IsInteger · n) := by
  have hdecimal := isDecimal_toString n.natAbs
  by_cases hsign : n < 0
  · have hn : -(n.natAbs : Int) = n := by omega
    have hread := IsInteger.negated hdecimal
    rw [hn] at hread
    rw [integerTokens, decide_eq_true hsign]
    exact ⟨_, rfl, hread⟩
  · have hn : (n.natAbs : Int) = n := by omega
    have hread := IsInteger.plain hdecimal
    rw [hn] at hread
    rw [integerTokens, decide_eq_false hsign]
    exact ⟨_, rfl, hread⟩

def Fits (repr : Representation) (value : ConstantValue) : Prop := ∃ n, value = .num (.int n) ∧ repr.Contains n

theorem value?_integer (hinteger : repr.isFloat = false) :
    value? (.number repr) (.num (.int n)) = if holds repr n then some (integerTokens n) else none := by
  simp [value?, number?, hinteger]

theorem isSome_value?_iff (hinteger : repr.isFloat = false) :
    (value? (.number repr) value).isSome = true ↔ Fits repr value := by
  unfold Fits
  cases value with
  | str s => simp [value?]
  | num x =>
    cases x with
    | float x => simp [value?, number?, hinteger]
    | int n =>
      rw [value?_integer hinteger]
      by_cases hn : holds repr n = true
      · simpa [hn] using holds_iff.mp hn
      · simpa [hn] using mt holds_iff.mpr hn

/-! ## What constants say -/

/-- The expression says the value in the type of the base. How floating-point numbers are written is left open. -/
inductive Means : Primitive → ConstantValue → Expr → Prop where
  | text {literal s : String} : (∀ t, Text.StringLiteral literal t ↔ t = s) → Means .string (.str s) (.literal literal)
  | integer {repr n e} : repr.isFloat = false → repr.Contains n → IsInteger e n →
    Means (.number repr) (.num (.int n)) e
  | float {repr x e} : repr.isFloat = true → Means (.number repr) (.num x) e

theorem value_yields {ts : List Token} (h : value? base value = some ts) (depth : Nat) (rest : List Token) :
    Yields (Parser.exprAt (depth + 1) true 0) ts (.sign ';' :: rest) (Means base value) := by
  obtain ⟨e, he⟩ := value_reads (isValue_of_value? h) depth rest
  cases base with
  | bool => simp [value?] at h
  | string =>
    cases value with
    | num x => simp [value?] at h
    | str s =>
      obtain rfl := Option.some.inj h
      exact ⟨_, rfl, .text fun t => Text.stringLiteral_literal_iff⟩
  | number repr =>
    cases hfloat : repr.isFloat with
    | true =>
      cases value with
      | str s => simp [value?] at h
      | num x => exact ⟨e, he, .float hfloat⟩
    | false =>
      obtain ⟨n, rfl, hn⟩ := (isSome_value?_iff hfloat).mp (Option.isSome_of_eq_some h)
      rw [value?_integer hfloat, if_pos (holds_iff.mpr hn)] at h
      obtain rfl := Option.some.inj h
      obtain ⟨e, he, hinteger⟩ := integerTokens_yields n depth rest
      exact ⟨e, he, .integer hfloat hn hinteger⟩

theorem isConstant_of_readAs {t : Token} (ht : t.isName = true) {e : ConstantEntry} {row : List Token}
    (h : memberTokens base (memberType base t) e = .ok row) {i : Source.Item} (hi : ReadAs row i) :
    IsConstant (Token.identifier e.name).spelling (Means base e.value) i.declaration := by
  obtain ⟨hname, value, hvalue, rfl⟩ := exists_of_memberTokens h
  obtain ⟨depth, rest, hdepth, hread⟩ := hi
  obtain ⟨j, hj, hconstant⟩ := constant_yields (Token.isName_identifier hname) isAttribute_allow
    (memberType_reads base ht) (value_yields hvalue) hdepth rest
  obtain ⟨rfl, -⟩ := Prod.mk.inj (Option.some.inj (hread.symm.trans hj))
  exact hconstant

/-- The items are the alias of the block and, for each entry, a constant of its name that says its value. -/
def IsBlock (c : ConstantArtifact) (ts : List Token) : Prop :=
  ∃ first constants, Source.items? ts = some (first :: constants) ∧
    List.Forall₂ (fun e i => IsConstant (Token.identifier e.name).spelling (Means c.base e.value) i.declaration)
      c.entries constants

theorem isBlock_constantTokens {c : ConstantArtifact} {ts : List Token} (h : constantTokens c = .ok ts) :
    IsBlock c ts := by
  obtain ⟨hname, front, members, rfl, hfront, hmembers⟩ := exists_of_constantTokens h
  have hitems : ∀ row ∈ front :: members, IsItem row := by
    refine List.forall_mem_cons.mpr ⟨hfront, fun row hrow => ?_⟩
    obtain ⟨e, -, -, hitem⟩ := exists_mem_of_forall₂ hmembers.flip hrow
    exact hitem
  obtain ⟨is, his, hread⟩ := items?_flatten hitems
  rw [List.flatten_cons] at his
  obtain ⟨first, constants, -, hconstants, rfl⟩ := List.forall₂_cons_left_iff.mp hread
  refine ⟨first, constants, his, ?_⟩
  refine forall₂_trans ?_ hmembers hconstants
  intro e row i he hi
  exact isConstant_of_readAs (Token.isName_identifier hname) he.1 hi

/-! ## What is written -/

def Named (c : ConstantArtifact) : Prop :=
  Source.isIdentifier c.name = true ∧ ∀ e ∈ c.entries, Source.isIdentifier e.name = true

/-- The first entry whose value does not fit is at fault. -/
def FirstMisfit (repr : Representation) (c : ConstantArtifact) (fault : RenderFault) : Prop :=
  ∃ before e after, c.entries = before ++ e :: after ∧ (∀ other ∈ before, Fits repr other.value) ∧
    ¬Fits repr e.value ∧ fault = .invalidLiteral e.name e.value c.base

theorem entryFaults_eq_nil_iff (hinteger : repr.isFloat = false) {e : ConstantEntry}
    (hname : Source.isIdentifier e.name = true) : e.faults (.number repr) = [] ↔ Fits repr e.value := by
  rw [ConstantEntry.faults, nameFaults_eq_nil.mpr hname, List.nil_append, ← isSome_value?_iff hinteger]
  split <;> simp_all

theorem head?_entryFaults_iff (hinteger : repr.isFloat = false) {e : ConstantEntry}
    (hname : Source.isIdentifier e.name = true) {fault : RenderFault} :
    (e.faults (.number repr)).head? = some fault ↔
      ¬Fits repr e.value ∧ fault = .invalidLiteral e.name e.value (.number repr) := by
  rw [ConstantEntry.faults, nameFaults_eq_nil.mpr hname, List.nil_append, ← isSome_value?_iff hinteger]
  split
  · simp [*]
  · simp [*, eq_comm (a := fault)]

section Integers

variable {c : ConstantArtifact} (hbase : c.base = .number repr) (hinteger : repr.isFloat = false) (hnamed : Named c)
include hbase hinteger hnamed

omit hinteger in
theorem faults_of_named : c.faults = c.entries.flatMap (·.faults (.number repr)) := by
  rw [ConstantArtifact.faults, nameFaults_eq_nil.mpr hnamed.1, List.nil_append, hbase]

theorem isOk_constantTokens_iff :
    (∃ ts, constantTokens c = .ok ts) ↔ ∀ e ∈ c.entries, Fits repr e.value := by
  rw [(constantTokens_stopsAt c).isOk_iff, faults_of_named hbase hnamed, List.flatMap_eq_nil_iff]
  exact forall₂_congr fun e he => entryFaults_eq_nil_iff hinteger (hnamed.2 e he)

theorem error_constantTokens_iff {fault : RenderFault} :
    constantTokens c = .error fault ↔ FirstMisfit repr c fault := by
  rw [(constantTokens_stopsAt c).error_iff, faults_of_named hbase hnamed, List.head?_flatMap,
    List.findSome?_eq_some_iff, FirstMisfit, hbase]
  refine exists_congr fun before => exists_congr fun e => exists_congr fun after => and_congr_right fun hentries => ?_
  have hname : ∀ other ∈ c.entries, Source.isIdentifier other.name = true := hnamed.2
  rw [hentries] at hname
  rw [head?_entryFaults_iff hinteger (hname e (by simp))]
  have hbefore : (∀ other ∈ before, (other.faults (.number repr)).head? = none) ↔
      ∀ other ∈ before, Fits repr other.value := by
    refine forall₂_congr fun other hother => ?_
    rw [List.head?_eq_none_iff]
    exact entryFaults_eq_nil_iff hinteger (hname other (List.mem_append_left _ hother))
  rw [hbefore, and_comm]

end Integers

/-- A block that is written says its values. A block of integers is written just when its type holds all of them, and
otherwise the first that it does not hold is told. -/
theorem constantTokens_says (c : ConstantArtifact) :
    (∀ ts, constantTokens c = .ok ts → IsBlock c ts) ∧
    ∀ repr, c.base = .number repr → repr.isFloat = false → Named c →
      ((∃ ts, constantTokens c = .ok ts) ↔ ∀ e ∈ c.entries, Fits repr e.value) ∧
      ∀ fault, constantTokens c = .error fault ↔ FirstMisfit repr c fault :=
  ⟨fun _ => isBlock_constantTokens, fun _ hbase hinteger hnamed =>
    ⟨isOk_constantTokens_iff hbase hinteger hnamed, fun _ => error_constantTokens_iff hbase hinteger hnamed⟩⟩

/-- The least and the greatest integer of 64 bits, then the integer after that one. -/
def levels : List ConstantEntry :=
  [⟨"LevelLow", .num (.int (-9223372036854775808))⟩, ⟨"LevelHigh", .num (.int 9223372036854775807)⟩,
    ⟨"LevelOver", .num (.int 9223372036854775808)⟩]

theorem constantTokens_says_levels :
    (∃ ts, constantTokens ⟨"Level", .number .int64, levels.take 2⟩ = .ok ts ∧
      IsBlock ⟨"Level", .number .int64, levels.take 2⟩ ts) ∧
    constantTokens ⟨"Level", .number .int64, levels⟩ =
      .error (.invalidLiteral "LevelOver" (.num (.int 9223372036854775808)) (.number .int64)) := by
  have hlow : Fits .int64 (.num (.int (-9223372036854775808))) := ⟨_, rfl, by decide, by decide⟩
  have hhigh : Fits .int64 (.num (.int 9223372036854775807)) := ⟨_, rfl, by decide, by decide⟩
  have hfit : ∀ e ∈ levels.take 2, Fits .int64 e.value := by simp [levels, hlow, hhigh]
  have hover : ¬Fits .int64 (.num (.int 9223372036854775808)) := by
    rintro ⟨n, heq, -, hle⟩
    cases heq
    exact absurd hle (by decide)
  have hnames : ∀ e ∈ levels, Source.isIdentifier e.name = true := by decide +kernel
  constructor
  · have hblock := constantTokens_says ⟨"Level", .number .int64, levels.take 2⟩
    have hnamed : Named ⟨"Level", .number .int64, levels.take 2⟩ :=
      ⟨by decide, fun e he => hnames e (List.mem_of_mem_take he)⟩
    obtain ⟨ts, hts⟩ := (hblock.2 .int64 rfl rfl hnamed).1.mpr hfit
    exact ⟨ts, hts, hblock.1 ts hts⟩
  · have hblock := constantTokens_says ⟨"Level", .number .int64, levels⟩
    exact ((hblock.2 .int64 rfl rfl ⟨by decide, hnames⟩).2 _).mpr ⟨levels.take 2, _, [], rfl, hfit, hover, rfl⟩

end Render

end Declgen
