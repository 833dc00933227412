import Mathlib.Algebra.GroupWithZero.Nat
import Declgen.Proofs.Render.Types
import Declgen.Render.File

/-!
# Items are read back

The import that dates need, type aliases, constants and structs are each read as an item, whatever item comes
next. So are all of them together.
-/

namespace Declgen.Render

open Source
open Source.Token (Balanced BalancedRows)
open Source.Parser (EndsType Reads Yields level)

/-- The row is read as an item by all levels but those that are too shallow. -/
structure IsItem (row : List Token) : Prop where
  nonempty : row ≠ []
  reads : ∀ depth, row.length ≤ depth → ∀ rest, Reads (Parser.item (level depth)) row rest

/-! ## Attributes -/

/-- At most one attribute. -/
def IsAttribute (ts : List Token) : Prop :=
  ts = [] ∨ ∃ name args, isReserved name = false ∧ BalancedRows args ∧ ts = attribute_ name args

theorem isAttribute_attribute {name : String} (hname : isReserved name = false) {args : List (List Token)}
    (hargs : BalancedRows args) : IsAttribute (attribute_ name args) := .inr ⟨name, args, hname, hargs, rfl⟩

theorem attributes_none (n : Parser.Nested) (budget : List Token) {rest : List Token}
    (hrest : Parser.mark '#' rest = none) : Parser.attributes n budget rest = some ([], rest) := by
  cases budget with
  | nil => rfl
  | cons b budget => simp [Parser.attributes, hrest]

theorem attributes_next (n : Parser.Nested) (b : Token) {budget mid more rest : List Token} {a : Attribute}
    {as : List Attribute} (ha : Parser.inBrackets .square (Parser.attributeInside n false) mid = some (a, more))
    (has : Parser.attributes n budget more = some (as, rest)) :
    Parser.attributes n (b :: budget) (.sign '#' :: mid) = some (a :: as, rest) := by
  have hhash : Parser.mark '#' (.sign '#' :: mid) = some ((), mid) := rfl
  simp [Parser.attributes, hhash, ha, has]

theorem attributeInside_list (n : Parser.Nested) {t : Token} (ht : t.isName = true) (ts : Enclosed)
    (rest : List Token) :
    Parser.attributeInside n false (t :: (Token.inBrackets .round ts ++ rest)) =
      some (.list false false [t.spelling] .round ts, rest) := by
  have hunsafe : Parser.keywordOf ["unsafe"] (t :: (Token.inBrackets .round ts ++ rest)) = none :=
    Parser.keywordOf_of_isName ht _ (by decide)
  have hkeyword : Parser.keywordOf ["self", "super", "crate", "Self"] (t :: (Token.inBrackets .round ts ++ rest)) =
      none := Parser.keywordOf_of_isName ht _ (by decide)
  have hname := Parser.name_of_isName ht (Token.inBrackets .round ts ++ rest)
  have hstart : Parser.colons (t :: (Token.inBrackets .round ts ++ rest)) = none := by
    obtain ⟨w, raw, rfl⟩ := Parser.exists_word_of_isName ht
    rfl
  have hend : Parser.colons (Token.inBrackets .round ts ++ rest) = none := rfl
  have hgroup := Parser.group_inBrackets .round ts rest
  simp [Parser.attributeInside, Parser.simplePath, Parser.simpleName, Parser.joined, hunsafe, hkeyword, hname, hstart,
    hend, hgroup]

theorem attributes_one (n : Parser.Nested) {name : String} (hname : isReserved name = false)
    {args : List (List Token)} (hargs : BalancedRows args) {rest : List Token}
    (hrest : Parser.mark '#' rest = none) : Parser.loop (Parser.attributes n) (attribute_ name args ++ rest) =
      some ([.list false false [name] .round ⟨Token.commas args, hargs.commas⟩], rest) := by
  have ht : (Token.plain name).isName = true := by simp [Token.plain, Token.isName, hname]
  have hinside := attributeInside_list n ht ⟨Token.commas args, hargs.commas⟩ (.closing .square :: rest)
  have hrow : attribute_ name args ++ rest = .sign '#' :: .opening .square :: .plain name ::
      (Token.inBrackets .round (Token.commas args) ++ .closing .square :: rest) := by
    simp [attribute_, Token.inBrackets]
  have hbrackets : Parser.inBrackets .square (Parser.attributeInside n false) (.opening .square :: .plain name ::
      (Token.inBrackets .round (Token.commas args) ++ .closing .square :: rest)) =
      some (.list false false [(Token.plain name).spelling] .round ⟨Token.commas args, hargs.commas⟩, rest) := by
    simp [Parser.inBrackets, Parser.opening, Parser.closing, hinside]
  rw [hrow]
  exact attributes_next n _ hbrackets (attributes_none n _ hrest)

theorem attributes_read (n : Parser.Nested) {ts rest : List Token} (h : IsAttribute ts)
    (hrest : Parser.mark '#' rest = none) : Reads (Parser.loop (Parser.attributes n)) ts rest := by
  rcases h with rfl | ⟨name, args, hname, hargs, rfl⟩
  · exact ⟨[], attributes_none n rest hrest⟩
  · exact ⟨_, attributes_one n hname hargs hrest⟩

/-! ## Visibility -/

theorem visibility_pub {rest : List Token} (hround : Parser.opening .round rest = none) :
    Parser.visibility (.plain "pub" :: rest) = some (.everywhere, rest) := by
  have hpub : Parser.keyword "pub" (.plain "pub" :: rest) = some ((), rest) := rfl
  have hrestriction : Parser.restriction rest = none := by simp [Parser.restriction, Parser.inBrackets, hround]
  simp [Parser.visibility, hpub, hrestriction]

theorem item_pub_yields {n : Parser.Nested} {ts row rest : List Token} (hattribute : IsAttribute ts) {w : String}
    {P : Source.Declaration → Prop} (hdeclaration : Yields (Parser.declaration n) (.plain w :: row) rest P) :
    Yields (Parser.item n) (ts ++ .plain "pub" :: .plain w :: row) rest fun i => P i.declaration := by
  have hhash : Parser.mark '#' (.plain "pub" :: .plain w :: (row ++ rest)) = none := rfl
  obtain ⟨as, has⟩ := attributes_read n hattribute hhash
  obtain ⟨d, hd, hP⟩ := hdeclaration
  have hround : Parser.opening .round (.plain w :: (row ++ rest)) = none := rfl
  have hpub := visibility_pub hround
  refine ⟨⟨as, .everywhere, d⟩, ?_, hP⟩
  simp_all [Parser.item]

theorem isItem_pub {ts row : List Token} (hattribute : IsAttribute ts) {w : String}
    (hdeclaration : ∀ depth, row.length < depth → ∀ rest,
      Reads (Parser.declaration (level depth)) (.plain w :: row) rest) :
    IsItem (ts ++ .plain "pub" :: .plain w :: row) where
  nonempty := by simp
  reads depth hdepth rest := by
    have hread := hdeclaration depth (by simp at hdepth; omega) rest
    exact (item_pub_yields hattribute hread.yields).reads

/-! ## Type aliases -/

theorem plainAlias_reads (n : Parser.Nested) {t : Token} (ht : t.isName = true) {type rest : List Token}
    (htype : Reads (n.type true) type (.sign ';' :: rest)) :
    Reads (Parser.plainAlias n) (.plain "type" :: t :: .sign '=' :: type ++ [.sign ';']) rest := by
  obtain ⟨ty, hty⟩ := htype
  have hkeyword : Parser.keyword "type" (.plain "type" :: t :: .sign '=' :: (type ++ .sign ';' :: rest)) =
      some ((), t :: .sign '=' :: (type ++ .sign ';' :: rest)) := rfl
  have hname := Parser.name_of_isName ht (.sign '=' :: (type ++ .sign ';' :: rest))
  have hparameters : Parser.parameters? n (.sign '=' :: (type ++ .sign ';' :: rest)) =
      some ([], .sign '=' :: (type ++ .sign ';' :: rest)) := rfl
  have hbounds (last : Parser Unit) : Parser.typeBounds n last (.sign '=' :: (type ++ .sign ';' :: rest)) =
      some ([], .sign '=' :: (type ++ .sign ';' :: rest)) := rfl
  have hwhere : Parser.whereClause n (.sign '=' :: (type ++ .sign ';' :: rest)) =
      some ([], .sign '=' :: (type ++ .sign ';' :: rest)) := rfl
  have hequals : Parser.mark '=' (.sign '=' :: (type ++ .sign ';' :: rest)) =
      some ((), type ++ .sign ';' :: rest) := rfl
  have hend : Parser.mark ';' (.sign ';' :: rest) = some ((), rest) := rfl
  refine ⟨.typeAlias t.spelling ⟨[], []⟩ ty, ?_⟩
  simp [Parser.plainAlias, Parser.typeAlias, hkeyword, hname, hparameters, hbounds, hwhere, hequals, hty, hend]

theorem isItem_alias {t : Token} (ht : t.isName = true) {base : List Token} (hbase : IsType base) :
    IsItem (.plain "pub" :: .plain "type" :: t :: .sign '=' :: base ++ [.sign ';']) := by
  have hitem : IsItem ([] ++ .plain "pub" :: .plain "type" :: (t :: .sign '=' :: base ++ [.sign ';'])) := by
    refine isItem_pub (.inl rfl) fun depth hdepth rest => ?_
    have htype := hbase.reads depth (by simp at hdepth; omega) (.sign ';' :: rest) (.atMark (by decide) false rest)
    obtain ⟨d, hd⟩ := plainAlias_reads (level depth) ht htype
    exact ⟨d, hd⟩
  exact hitem

/-! ## Constants -/

/-- A literal, perhaps with a minus sign. -/
def IsValue (ts : List Token) : Prop := ∃ text, ts = [.literal text] ∨ ts = [.sign '-', .literal text]

theorem isValue_signed (negative : Bool) (magnitude : String) : IsValue (signed negative magnitude) := by
  cases negative with
  | false => exact ⟨magnitude, .inl rfl⟩
  | true => exact ⟨magnitude, .inr rfl⟩

theorem isValue_of_number? {repr : Representation} {x : Number} {ts : List Token} (h : number? repr x = some ts) :
    IsValue ts := by
  unfold number? at h
  split at h
  · obtain ⟨d, -, hd⟩ := Option.bind_eq_some_iff.mp h
    split at hd
    · simp at hd
    · obtain rfl := Option.some.inj hd
      exact isValue_signed _ _
  · split at h
    · split at h
      · obtain rfl := Option.some.inj h
        exact isValue_signed _ _
      · simp at h
    · simp at h

theorem isValue_of_value? {base : Primitive} {value : ConstantValue} {ts : List Token}
    (h : value? base value = some ts) : IsValue ts := by
  unfold value? at h
  split at h
  · rename_i s
    obtain rfl := Option.some.inj h
    exact ⟨_, .inl rfl⟩
  · exact isValue_of_number? h
  · simp at h

/-- No level is too shallow for a value but the last one. -/
theorem value_reads {ts : List Token} (h : IsValue ts) (depth : Nat) (rest : List Token) :
    Reads (Parser.exprAt (depth + 1) true 0) ts (.sign ';' :: rest) := by
  obtain ⟨text, rfl | rfl⟩ := h
  · exact ⟨.literal text, rfl⟩
  · exact ⟨.unary '-' (.literal text), rfl⟩

theorem declaration_const (n : Parser.Nested) {t : Token} (ht : t.isName = true) (ts : List Token) :
    Parser.declaration n (.plain "const" :: t :: ts) = Parser.valuedConstant n false (.plain "const" :: t :: ts) := by
  have hfunction : Parser.functionAhead (.plain "const" :: t :: ts) = some (false, .plain "const" :: t :: ts) := by
    have hconst : Parser.keyword "const" (.plain "const" :: t :: ts) = some ((), t :: ts) := rfl
    have hkeyword {w : String} (hw : isReserved w = true) := Parser.keyword_of_isName ht ts hw
    simp [Parser.functionAhead, hconst, hkeyword (w := "async") rfl, hkeyword (w := "unsafe") rfl,
      hkeyword (w := "extern") rfl, hkeyword (w := "fn") rfl]
  rw [Parser.declaration, Parser.bind_apply, hfunction]
  rfl

/-- What is read is a constant of that name, with the value that its expression has. -/
def IsConstant (name : String) (P : Expr → Prop) (d : Source.Declaration) : Prop :=
  ∃ ty e, d = .constant false name ty (some e) ∧ P e

theorem valuedConstant_yields (n : Parser.Nested) {t : Token} (ht : t.isName = true) {type value rest : List Token}
    {P : Expr → Prop} (htype : Reads (n.type true) type (.sign '=' :: (value ++ .sign ';' :: rest)))
    (hvalue : Yields n.anyExpr value (.sign ';' :: rest) P) :
    Yields (Parser.valuedConstant n false)
      (.plain "const" :: t :: .sign ':' :: type ++ .sign '=' :: value ++ [.sign ';']) rest
      (IsConstant t.spelling P) := by
  obtain ⟨ty, hty⟩ := htype
  obtain ⟨e, he, hP⟩ := hvalue
  let afterName := .sign ':' :: (type ++ .sign '=' :: (value ++ .sign ';' :: rest))
  have hconst : Parser.keyword "const" (.plain "const" :: t :: afterName) = some ((), t :: afterName) := rfl
  have hwild : Parser.keywordOf ["_"] (t :: afterName) = none := Parser.keywordOf_of_isName ht _ (by decide)
  have hname := Parser.name_of_isName ht afterName
  have hcolon : Parser.mark ':' afterName = some ((), type ++ .sign '=' :: (value ++ .sign ';' :: rest)) := rfl
  have hequals : Parser.mark '=' (.sign '=' :: (value ++ .sign ';' :: rest)) =
      some ((), value ++ .sign ';' :: rest) := rfl
  have hend : Parser.mark ';' (.sign ';' :: rest) = some ((), rest) := rfl
  refine ⟨.constant false t.spelling ty (some e), ?_, ty, e, rfl, hP⟩
  have hrow : .plain "const" :: t :: .sign ':' :: type ++ .sign '=' :: value ++ [.sign ';'] ++ rest =
      .plain "const" :: t :: afterName := by simp [afterName]
  rw [hrow]
  simp [Parser.valuedConstant, Parser.constantItem, hconst, hwild, hname, hcolon, hty, hequals, he, hend]

section Constants

variable {t : Token} (ht : t.isName = true) {ts type value : List Token} (hts : IsAttribute ts)
  (htype : ∀ depth, type.length ≤ depth → ∀ rest, Reads (Parser.typeAt depth true) type (.sign '=' :: rest))
include ht hts htype

theorem constant_yields {P : Expr → Prop}
    (hvalue : ∀ depth rest, Yields (Parser.exprAt (depth + 1) true 0) value (.sign ';' :: rest) P) {depth : Nat}
    (hdepth : (ts ++ Token.plain "pub" :: Token.plain "const" :: t :: Token.sign ':' :: type ++
      Token.sign '=' :: value ++ [Token.sign ';']).length ≤ depth) (rest : List Token) :
    Yields (Parser.item (level depth))
      (ts ++ .plain "pub" :: .plain "const" :: t :: .sign ':' :: type ++ .sign '=' :: value ++ [.sign ';']) rest
      fun i => IsConstant t.spelling P i.declaration := by
  obtain ⟨d, rfl⟩ : ∃ d, depth = d + 1 := Nat.exists_eq_succ_of_ne_zero (by simp at hdepth; omega)
  have htype := htype (d + 1) (by simp at hdepth; omega) (value ++ .sign ';' :: rest)
  obtain ⟨c, hc, hP⟩ := valuedConstant_yields (level (d + 1)) ht htype (hvalue d rest)
  have hdeclaration : Yields (Parser.declaration (level (d + 1)))
      (.plain "const" :: (t :: .sign ':' :: type ++ .sign '=' :: value ++ [.sign ';'])) rest
      (IsConstant t.spelling P) := by
    refine ⟨c, ?_, hP⟩
    simp only [List.cons_append] at hc ⊢
    rw [declaration_const (level (d + 1)) ht]
    exact hc
  simpa using item_pub_yields hts hdeclaration

theorem isItem_constant (hvalue : IsValue value) :
    IsItem (ts ++ .plain "pub" :: .plain "const" :: t :: .sign ':' :: type ++ .sign '=' :: value ++ [.sign ';']) where
  nonempty := by simp
  reads _ hdepth rest :=
    (constant_yields ht hts htype (fun depth rest => (value_reads hvalue depth rest).yields) hdepth rest).reads

end Constants

theorem memberType_reads (base : Primitive) {t : Token} (ht : t.isName = true) (depth : Nat)
    (hdepth : (memberType base t).length ≤ depth) (rest : List Token) :
    Reads (Parser.typeAt depth true) (memberType base t) (.sign '=' :: rest) := by
  have hname := (isType_name ht).reads depth
  cases base with
  | string =>
    obtain ⟨d, rfl⟩ := Nat.exists_eq_add_of_le hdepth
    rw [Nat.add_comm]
    exact ⟨.reference none false (.path false [.plain "str"]), rfl⟩
  | bool | number repr => exact hname hdepth _ (.atMark (by decide) false rest)

/-! ## Structs -/

/-- An attribute or none, `pub`, a name and a type. -/
def IsField (row : List Token) : Prop :=
  ∃ ts t type, IsAttribute ts ∧ t.isName = true ∧ IsType type ∧ row = ts ++ .plain "pub" :: t :: .sign ':' :: type

theorem namedField_reads {row : List Token} (h : IsField row) {depth : Nat} (hdepth : row.length ≤ depth)
    {rest : List Token} (hends : EndsType rest) : Reads (Parser.namedField (level depth)) row rest := by
  obtain ⟨ts, t, type, hts, ht, htype, rfl⟩ := h
  have hhash : Parser.mark '#' (.plain "pub" :: t :: .sign ':' :: (type ++ rest)) = none := rfl
  obtain ⟨as, has⟩ := attributes_read (level depth) hts hhash
  have hround : Parser.opening .round (t :: .sign ':' :: (type ++ rest)) = none := by
    obtain ⟨w, raw, rfl⟩ := Parser.exists_word_of_isName ht
    rfl
  have hpub := visibility_pub hround
  have hwild : Parser.keywordOf ["_"] (t :: .sign ':' :: (type ++ rest)) = none :=
    Parser.keywordOf_of_isName ht _ (by decide)
  have hname := Parser.name_of_isName ht (.sign ':' :: (type ++ rest))
  have hcolon : Parser.mark ':' (.sign ':' :: (type ++ rest)) = some ((), type ++ rest) := rfl
  obtain ⟨ty, hty⟩ := htype.reads depth (by simp at hdepth; omega) rest hends
  have htype : (level depth).type true (type ++ rest) = some (ty, rest) := hty
  refine ⟨⟨as, .everywhere, some t.spelling, ty⟩, ?_⟩
  simp_all [Parser.namedField]

theorem isField_starts {row : List Token} (h : IsField row) (rest : List Token) :
    Parser.closing .curly (row ++ rest) = none := by
  obtain ⟨ts, t, type, hts, -, -, rfl⟩ := h
  rcases hts with rfl | ⟨name, args, -, -, rfl⟩ <;> rfl

/-- How many fields a struct with braces has. -/
def fieldCount? : Source.Declaration → Option Nat
  | .struct _ _ (.named fs) => some fs.length
  | _ => none

theorem struct_yields {t : Token} (ht : t.isName = true) {rows : List (List Token)} (hrows : ∀ row ∈ rows, IsField row)
    {depth : Nat} (hdepth : (Token.commas rows).length ≤ depth) (rest : List Token) :
    Yields (Parser.struct (level depth)) (t :: Token.inBrackets .curly (Token.commas rows)) rest
      fun d => fieldCount? d = some rows.length := by
  let inside := Token.commas rows ++ .closing .curly :: rest
  obtain ⟨fs, trailing, hfields, hcount⟩ : ∃ fs trailing,
      Parser.listed (Parser.namedField (level depth)) (Parser.closing .curly) inside = some ((fs, trailing), rest) ∧
        List.Forall₂ (fun _ _ => True) rows fs := by
    refine Parser.listed_yields rfl (fun _ => rfl) (fun row hrow => isField_starts (hrows row hrow)) ?_
    intro row hrow stop hstop more
    have hlength := length_le_length_commas_of_mem hrow
    have hends : EndsType (stop :: more) := by
      simp only [List.mem_cons, List.not_mem_nil, or_false] at hstop
      rcases hstop with rfl | rfl
      · exact .atMark (by decide) false more
      · exact .atClosing .curly more
    exact (namedField_reads (hrows row hrow) (by omega) hends).yields
  have hname := Parser.name_of_isName ht (.opening .curly :: inside)
  have hparameters : Parser.parameters? (level depth) (.opening .curly :: inside) =
      some ([], .opening .curly :: inside) := rfl
  have hwhere : Parser.whereClause (level depth) (.opening .curly :: inside) =
      some ([], .opening .curly :: inside) := rfl
  have hcurly : Parser.opening .curly (.opening .curly :: inside) = some ((), inside) := rfl
  refine ⟨.struct t.spelling ⟨[], []⟩ (.named fs), ?_, congrArg some hcount.length_eq.symm⟩
  have hrow : t :: Token.inBrackets .curly (Token.commas rows) ++ rest = t :: .opening .curly :: inside := by
    simp [Token.inBrackets, inside]
  rw [hrow]
  simp [Parser.struct, Parser.structFields, hname, hparameters, hwhere, hcurly, hfields]

/-- The row is read as a struct with `count` fields by all levels but those that are too shallow. -/
structure IsStruct (count : Nat) (row : List Token) : Prop where
  nonempty : row ≠ []
  reads : ∀ depth, row.length ≤ depth → ∀ rest,
    Yields (Parser.item (level depth)) row rest fun i => fieldCount? i.declaration = some count

theorem IsStruct.isItem {count : Nat} {row : List Token} (h : IsStruct count row) : IsItem row where
  nonempty := h.nonempty
  reads depth hdepth rest := (h.reads depth hdepth rest).reads

theorem isStruct_of_isField {t : Token} (ht : t.isName = true) {ts : List Token} (hts : IsAttribute ts)
    {rows : List (List Token)} (hrows : ∀ row ∈ rows, IsField row) :
    IsStruct rows.length
      (ts ++ [.plain "pub", .plain "struct", t] ++ Token.inBrackets .curly (Token.commas rows)) where
  nonempty := by simp
  reads depth hdepth rest := by
    have hlength : (Token.commas rows).length ≤ depth := by
      simp [Token.inBrackets] at hdepth
      omega
    obtain ⟨d, hd, hcount⟩ := struct_yields ht hrows hlength rest
    have hdeclaration : Yields (Parser.declaration (level depth))
        (.plain "struct" :: (t :: Token.inBrackets .curly (Token.commas rows))) rest
        fun d => fieldCount? d = some rows.length := ⟨d, hd, hcount⟩
    simpa using item_pub_yields hts hdeclaration

/-! ## Fields within a field -/

/-- A type, and `extra` fields behind it. -/
def IsSpliced (extra : Nat) (row : List Token) : Prop :=
  ∃ type rows, IsType type ∧ (∀ r ∈ rows, IsField r) ∧ rows.length = extra ∧ row = Token.commas (type :: rows)

theorem IsType.isSpliced {row : List Token} (h : IsType row) : IsSpliced 0 row :=
  ⟨row, [], h, by simp, rfl, rfl⟩

/-- Fields one after the other. -/
def AreFields (count : Nat) (row : List Token) : Prop :=
  ∃ rows, rows ≠ [] ∧ (∀ r ∈ rows, IsField r) ∧ rows.length = count ∧ row = Token.commas rows

theorem append_commas_cons (ts row : List Token) (rows : List (List Token)) :
    ts ++ Token.commas (row :: rows) = Token.commas ((ts ++ row) :: rows) := by
  cases rows with
  | nil => rfl
  | cons next rest => simp [Token.commas]

theorem commas_append {rows more : List (List Token)} (hrows : rows ≠ []) (hmore : more ≠ []) :
    Token.commas (rows ++ more) = Token.commas rows ++ .sign ',' :: Token.commas more := by
  obtain ⟨other, others, rfl⟩ := List.exists_cons_of_ne_nil hmore
  induction rows using Token.commas.induct with
  | case1 => exact absurd rfl hrows
  | case2 row => rfl
  | case3 row rest hrest ih =>
    obtain ⟨next, rest, rfl⟩ := List.exists_cons_of_ne_nil hrest
    have htail := ih (List.cons_ne_nil next rest)
    rw [List.cons_append] at htail
    simp [Token.commas, htail]

theorem IsSpliced.areFields {extra : Nat} {type : List Token} (h : IsSpliced extra type) {ts : List Token}
    (hts : IsAttribute ts) {t : Token} (ht : t.isName = true) :
    AreFields (extra + 1) (ts ++ .plain "pub" :: t :: .sign ':' :: type) := by
  obtain ⟨type, rows, htype, hrows, rfl, rfl⟩ := h
  refine ⟨(ts ++ .plain "pub" :: t :: .sign ':' :: type) :: rows, List.cons_ne_nil _ _, ?_, rfl, ?_⟩
  · exact List.forall_mem_cons.mpr ⟨⟨ts, t, type, hts, ht, htype, rfl⟩, hrows⟩
  · have happend := append_commas_cons (ts ++ [.plain "pub", t, .sign ':']) type rows
    simpa using happend

theorem exists_isField {counts : List Nat} {rows : List (List Token)} (h : List.Forall₂ AreFields counts rows) :
    ∃ all : List (List Token), (∀ row ∈ all, IsField row) ∧ all.length = counts.sum ∧
      Token.commas rows = Token.commas all := by
  induction h with
  | nil => exact ⟨[], by simp, rfl, rfl⟩
  | @cons count row counts rows hrow hrest ih =>
    obtain ⟨first, hne, hfirst, rfl, rfl⟩ := hrow
    obtain ⟨all, hall, hlength, hcommas⟩ := ih
    refine ⟨first ++ all, List.forall_mem_append.mpr ⟨hfirst, hall⟩, by simp [hlength], ?_⟩
    cases hrest with
    | nil =>
      obtain rfl := List.eq_nil_of_length_eq_zero hlength
      simp [Token.commas]
    | @cons count next _ rows hnext _ =>
      -- A row holds a field at least, so there is something behind the comma.
      have hmore : all ≠ [] := by
        obtain ⟨fields, hfields, -, hcount, -⟩ := hnext
        have hpos := List.length_pos_iff.mpr hfields
        rw [List.sum_cons, ← hcount] at hlength
        exact List.ne_nil_of_length_pos (by omega)
      rw [commas_append hne hmore, ← hcommas]
      rfl

theorem isStruct_of_areFields {t : Token} (ht : t.isName = true) {ts : List Token} (hts : IsAttribute ts)
    {counts : List Nat} {rows : List (List Token)} (hrows : List.Forall₂ AreFields counts rows) :
    IsStruct counts.sum
      (ts ++ [.plain "pub", .plain "struct", t] ++ Token.inBrackets .curly (Token.commas rows)) := by
  obtain ⟨all, hall, hlength, hcommas⟩ := exists_isField hrows
  rw [hcommas, ← hlength]
  exact isStruct_of_isField ht hts hall

/-! ## The import that dates need -/

section Imports

variable {t : Token} (ht : t.isName = true) (b : Token) (budget : List Token) {rest : List Token}

include ht in
theorem useName_of_isName (rest : List Token) : Parser.useName (t :: rest) = some (t.spelling, rest) := by
  have hkeyword : Parser.keywordOf ["self", "super", "crate", "try"] (t :: rest) = none :=
    Parser.keywordOf_of_isName ht rest (by decide)
  simp [Parser.useName, hkeyword, Parser.name_of_isName ht rest]

include ht in
theorem useTreeAt_name (hcolons : Parser.colons rest = none) (has : Parser.keyword "as" rest = none) :
    Parser.useTreeAt (b :: budget) (t :: rest) = some (.name t.spelling, rest) := by
  obtain ⟨w, raw, rfl⟩ := Parser.exists_word_of_isName ht
  have hglob : Parser.mark '*' (.word w raw :: rest) = none := rfl
  have hcurly : Parser.opening .curly (.word w raw :: rest) = none := rfl
  rw [Parser.useTreeAt]
  simp [hglob, hcurly, useName_of_isName ht rest, hcolons, has]

include ht in
theorem useTreeAt_inside {more : List Token} {tree : UseTree}
    (htree : Parser.useTreeAt budget more = some (tree, rest)) :
    Parser.useTreeAt (b :: budget) (t :: (Token.colons ++ more)) =
      some (.inside t.spelling tree, rest) := by
  obtain ⟨w, raw, rfl⟩ := Parser.exists_word_of_isName ht
  have hglob : Parser.mark '*' (.word w raw :: (Token.colons ++ more)) = none := rfl
  have hcurly : Parser.opening .curly (.word w raw :: (Token.colons ++ more)) = none := rfl
  have hcolons : Parser.colons (Token.colons ++ more) = some ((), more) := rfl
  rw [Parser.useTreeAt]
  simp [hglob, hcurly, useName_of_isName ht, hcolons, htree]

theorem useTreeAt_group {more : List Token} {trees : List UseTree} {trailing : Bool}
    (htrees : Parser.listed (Parser.useTreeAt budget) (Parser.closing .curly) more =
      some ((trees, trailing), rest)) :
    Parser.useTreeAt (b :: budget) (.opening .curly :: more) = some (.group trees, rest) := by
  have hglob : Parser.mark '*' (.opening .curly :: more) = none := rfl
  have hcurly : Parser.opening .curly (.opening .curly :: more) = some ((), more) := rfl
  rw [Parser.useTreeAt]
  simp [hglob, hcurly, htrees]

end Imports

theorem dateNames_read (b : Token) (budget rest : List Token) :
    ∃ r, Parser.listed (Parser.useTreeAt (b :: budget)) (Parser.closing .curly)
      (Token.commas [[.plain "DateTime"], [.plain "Utc"]] ++ .closing .curly :: rest) = some (r, rest) := by
  have hnames : ∀ row ∈ [[Token.plain "DateTime"], [Token.plain "Utc"]],
      ∃ t : Token, row = [t] ∧ t.isName = true := by
    intro row hrow
    simp only [List.mem_cons, List.not_mem_nil, or_false] at hrow
    rcases hrow with rfl | rfl <;> exact ⟨_, rfl, rfl⟩
  refine Parser.listed_reads rfl (fun _ => rfl) ?_ ?_
  · intro row hrow more
    obtain ⟨t, rfl, ht⟩ := hnames row hrow
    obtain ⟨w, raw, rfl⟩ := Parser.exists_word_of_isName ht
    rfl
  · intro row hrow stop hstop more
    obtain ⟨t, rfl, ht⟩ := hnames row hrow
    have hends : Parser.colons (stop :: more) = none ∧ Parser.keyword "as" (stop :: more) = none := by
      simp only [List.mem_cons, List.not_mem_nil, or_false] at hstop
      rcases hstop with rfl | rfl <;> exact ⟨rfl, rfl⟩
    exact ⟨_, useTreeAt_name ht b budget hends.1 hends.2⟩

theorem declaration_use (n : Parser.Nested) (ts : List Token) :
    Parser.declaration n (.plain "use" :: ts) = (do
      let absolute ← Parser.accepts Parser.colons
      let tree ← Parser.useTree
      Parser.mark ';'
      return .use_ absolute tree : Parser Source.Declaration) ts := rfl

theorem isItem_dateImport : IsItem dateImport where
  nonempty := by simp [dateImport]
  reads depth _ rest := by
    let names := Token.commas [[.plain "DateTime"], [.plain "Utc"]] ++ .closing .curly :: .sign ';' :: rest
    let path := .plain "chrono" :: (Token.colons ++ .opening .curly :: names)
    obtain ⟨⟨trees, trailing⟩, htrees⟩ :=
      dateNames_read (.mark ':' false) (.opening .curly :: names) (.sign ';' :: rest)
    have hgroup := useTreeAt_group (.mark ':' true) (.mark ':' false :: .opening .curly :: names) htrees
    have htree : Parser.useTree path = some (.inside "chrono" (.group trees), .sign ';' :: rest) :=
      useTreeAt_inside rfl (.plain "chrono") _ hgroup
    have huse : Parser.declaration (level depth) (.plain "use" :: path) =
        some (.use_ false (.inside "chrono" (.group trees)), rest) := by
      rw [declaration_use, Parser.bind_apply, Parser.accepts_apply]
      have hcolons : Parser.colons path = none := rfl
      have hend : Parser.mark ';' (.sign ';' :: rest) = some ((), rest) := rfl
      simp [hcolons, htree, hend]
    refine ⟨⟨[], .inherited, .use_ false (.inside "chrono" (.group trees))⟩, ?_⟩
    have hhash : Parser.mark '#' (.plain "use" :: path) = none := rfl
    have hattributes := attributes_none (level depth) (.plain "use" :: path) hhash
    have hvisibility : Parser.visibility (.plain "use" :: path) = some (.inherited, .plain "use" :: path) := rfl
    have hrow : dateImport ++ rest = .plain "use" :: path := rfl
    rw [hrow]
    simp [Parser.item, hattributes, hvisibility, huse]

end Declgen.Render
