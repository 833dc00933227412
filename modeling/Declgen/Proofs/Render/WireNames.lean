import Declgen.Proofs.Render.File
import Declgen.Proofs.Text.Literal

/-!
# Names in documents

The identifier of a field is made to fit a struct: it is put in snake case, escaped and counted. A serializer does
not see this. It reads and writes the name that the tag gives to the field, or else the name in the model.
-/

namespace Declgen

/-! ## What a tag asks for -/

namespace FieldTag

/-- The parts of the `json` entry between commas. A tag without that entry has none. -/
def parts (tag : String) : List (List Char) := (lookup? tag "json").elim [] (·.toList.splitOn ',')

/-- The field is left out of documents. -/
def Skips (tag : String) : Prop := lookup? tag "json" = some "-"

/-- The name in documents of a field that the model calls `raw`. -/
def wireName (tag raw : String) : String :=
  match parts tag with
  | (c :: name) :: _ => String.ofList (c :: name)
  | _ => raw

/-- An empty value may be missing from documents. -/
def OmitsEmpty (tag : String) : Prop := "omitempty".toList ∈ (parts tag).tail

theorem splitOn_eq (cs : List Char) : cs.splitOn ',' = (splitCommas cs).1 :: (splitCommas cs).2 := by
  induction cs with
  | nil => rfl
  | cons c cs ih =>
    rw [List.splitOn, List.splitOnP_cons_eq_if_modifyHead, ← List.splitOn, ih, splitCommas]
    by_cases hc : c = ',' <;> simp [hc]

theorem json_skip_iff {tag : String} : (json tag).skip = true ↔ Skips tag := by
  unfold json Skips
  cases lookup? tag "json" with
  | none => simp
  | some value => by_cases hvalue : value = "-" <;> simp [hvalue]

theorem getD_json_name {tag : String} (h : ¬Skips tag) (raw : String) :
    (json tag).name.getD raw = wireName tag raw := by
  unfold Skips at h
  unfold json wireName parts
  cases hvalue : lookup? tag "json" with
  | none => rfl
  | some value =>
    have hvalue : value ≠ "-" := by simpa [hvalue] using h
    simp only [if_neg hvalue, Option.elim_some, splitOn_eq]
    cases (splitCommas value.toList).1 <;> rfl

theorem json_omitEmpty_iff {tag : String} : (json tag).omitEmpty = true ↔ OmitsEmpty tag := by
  unfold json OmitsEmpty parts
  cases lookup? tag "json" with
  | none => simp
  | some value =>
    by_cases hvalue : value = "-"
    · subst hvalue
      simp [splitOn_eq, splitCommas]
    · simp [hvalue, splitOn_eq]

theorem not_omitsEmpty_of_skips {tag : String} (h : Skips tag) : ¬OmitsEmpty tag := by
  unfold Skips at h
  unfold OmitsEmpty parts
  rw [h]
  decide

end FieldTag

namespace Render

open Source (Token Attribute Parser)
open Source.Token (BalancedRows)

/-! ## What a serializer sees -/

/-- What stands between two commas of an attribute. -/
inductive Argument where
  | word (name : String)
  /-- Written as `name = "value"`. The value is what the literal says. -/
  | setting (name value : String)
deriving DecidableEq

namespace Argument

def name : Argument → String
  | word name | setting name _ => name

def tokens : Argument → List Token
  | word name => [.plain name]
  | setting name value => Render.setting name value

def read? : List Token → Option Argument
  | [.word name false] => some (word name)
  | [.word name false, .mark '=' false, .literal text] => (Text.unquoted? text).map (setting name)
  | _ => none

theorem read?_tokens (a : Argument) : read? a.tokens = some a := by
  cases a with
  | word name => rfl
  | setting name value =>
    rw [tokens, Render.setting, Token.plain, Token.sign, read?, Text.unquoted?_literal]
    rfl

theorem comma_not_mem_tokens (a : Argument) : Token.sign ',' ∉ a.tokens := by
  cases a <;> simp [tokens, Render.setting, Token.plain, Token.sign]

end Argument

/-- What is said about a field in the attribute `serde`, and its identifier, without the mark of an escaped one. -/
structure Seen where
  arguments : List Argument
  identifier : String

def Seen.rename? (s : Seen) : Option String :=
  s.arguments.findSome? fun
    | .setting "rename" value => some value
    | _ => none

def Seen.wireName (s : Seen) : String := s.rename?.getD s.identifier

/-- The arguments of the attribute `serde`, where that is the only attribute, if there is any. -/
def arguments? : List Attribute → Option (List Argument)
  | [] => some []
  | [.list false false ["serde"] .round ts] => (ts.tokens.splitOn (.sign ',')).mapM Argument.read?
  | _ => none

/-- Reads a field up to its type. -/
def seen? (n : Parser.Nested) (row : List Token) : Option Seen := do
  let (as, row) ← Parser.loop (Parser.attributes n) row
  let (_, row) ← Parser.visibility row
  match row with
  | .word name _ :: .mark ':' false :: _ => return ⟨← arguments? as, name⟩
  | _ => none

/-- What tells whether a value is empty, for the types that have such a test. -/
inductive EmptyTest : TypeExpr → String → Prop where
  | option (inner : TypeExpr) : EmptyTest (.option inner) "Option::is_none"
  | vec (inner : TypeExpr) : EmptyTest (.vec inner) "Vec::is_empty"
  | map (key value : TypeExpr) : EmptyTest (.map key value) "std::collections::HashMap::is_empty"

theorem emptyTest?_eq_some_iff {type : TypeExpr} {test : String} :
    emptyTest? type = some test ↔ EmptyTest type test := by
  constructor
  · intro h
    cases type <;> simp only [emptyTest?, reduceCtorEq, Option.some.injEq] at h
    all_goals
      subst h
      constructor
  · rintro (_ | _ | _) <;> rfl

/-- A serializer sees what the tag of the field asks for. -/
structure Wired (f : FieldArtifact) (s : Seen) : Prop where
  skipped : FieldTag.Skips f.tag → s.arguments = [.word "skip"]
  kept : .word "skip" ∈ s.arguments → FieldTag.Skips f.tag
  named : ¬FieldTag.Skips f.tag → s.wireName = FieldTag.wireName f.tag f.name
  defaulted : .word "default" ∈ s.arguments ↔ FieldTag.OmitsEmpty f.tag
  tested : ∀ test, .setting "skip_serializing_if" test ∈ s.arguments ↔
    FieldTag.OmitsEmpty f.tag ∧ EmptyTest f.type test
  only : ∀ a ∈ s.arguments, a = .word "skip" ∨ (∃ wire, a = .setting "rename" wire) ∨ a = .word "default" ∨
    ∃ test, a = .setting "skip_serializing_if" test
  once : (s.arguments.map Argument.name).Nodup

/-! ## Arguments -/

def nameArguments (wire name : String) : List Argument := if wire = name then [] else [.setting "rename" wire]

def emptyArguments (f : FieldArtifact) : List Argument :=
  if (FieldTag.json f.tag).omitEmpty then
    .word "default" :: (emptyTest? f.type).toList.map (.setting "skip_serializing_if")
  else []

section Arguments

variable {f : FieldArtifact} {name : String}

theorem serdeArguments_of_skips (h : FieldTag.Skips f.tag) :
    serdeArguments f name = [Argument.word "skip"].map Argument.tokens := by
  rw [serdeArguments, if_pos (FieldTag.json_skip_iff.mpr h)]
  rfl

theorem serdeArguments_of_not_skips (h : ¬FieldTag.Skips f.tag) :
    serdeArguments f name = (nameArguments (FieldTag.wireName f.tag f.name) name ++ emptyArguments f).map
      Argument.tokens := by
  have hname (wire : String) : (nameArguments wire name).map Argument.tokens =
      if wire = name then [] else [setting "rename" wire] := by
    unfold nameArguments
    split <;> rfl
  have hempty : (emptyArguments f).map Argument.tokens = if (FieldTag.json f.tag).omitEmpty then
      [.plain "default"] :: (emptyTest? f.type).toList.map (setting "skip_serializing_if") else [] := by
    unfold emptyArguments
    split
    · rw [List.map_cons, List.map_map]
      rfl
    · rfl
  rw [serdeArguments, if_neg (mt FieldTag.json_skip_iff.mp h), FieldTag.getD_json_name h, List.map_append, hname,
    hempty]

theorem eq_of_mem_nameArguments {wire : String} {a : Argument} (h : a ∈ nameArguments wire name) :
    a = .setting "rename" wire := by
  unfold nameArguments at h
  split at h
  · simp at h
  · exact List.mem_singleton.mp h

theorem mem_emptyArguments_iff {a : Argument} : a ∈ emptyArguments f ↔ FieldTag.OmitsEmpty f.tag ∧
    (a = .word "default" ∨ ∃ test, EmptyTest f.type test ∧ a = .setting "skip_serializing_if" test) := by
  rw [emptyArguments, ← FieldTag.json_omitEmpty_iff]
  split
  · simp [← emptyTest?_eq_some_iff, eq_comm, *]
  · simp [*]

theorem nodup_arguments (wire : String) :
    ((nameArguments wire name ++ emptyArguments f).map Argument.name).Nodup := by
  rw [List.map_append]
  refine List.nodup_append.mpr ⟨?_, ?_, ?_⟩
  · unfold nameArguments
    split <;> simp
  · unfold emptyArguments
    split
    · cases emptyTest? f.type <;> simp [Argument.name]
    · exact List.nodup_nil
  · rintro _ hleft _ hright rfl
    obtain ⟨a, ha, hsame⟩ := List.mem_map.mp hleft
    obtain ⟨b, hb, rfl⟩ := List.mem_map.mp hright
    obtain rfl := eq_of_mem_nameArguments ha
    obtain ⟨-, rfl | ⟨test, -, rfl⟩⟩ := mem_emptyArguments_iff.mp hb <;> simp [Argument.name] at hsame

theorem wireName_eq (wire : String) : Seen.wireName ⟨nameArguments wire name ++ emptyArguments f, name⟩ = wire := by
  -- Where no name is given, the identifier is the name, and the other arguments do not change it.
  have hnone : Seen.rename? ⟨emptyArguments f, name⟩ = none := by
    refine List.findSome?_eq_none_iff.mpr fun a ha => ?_
    obtain ⟨-, rfl | ⟨test, -, rfl⟩⟩ := mem_emptyArguments_iff.mp ha <;> rfl
  unfold nameArguments
  split
  · rename_i hsame
    rw [List.nil_append, Seen.wireName, hnone]
    exact hsame.symm
  · rfl

theorem wired_of_skips (h : FieldTag.Skips f.tag) : Wired f ⟨[.word "skip"], name⟩ where
  skipped _ := rfl
  kept _ := h
  named hkept := absurd h hkept
  defaulted := by simp [FieldTag.not_omitsEmpty_of_skips h]
  tested := by simp [FieldTag.not_omitsEmpty_of_skips h]
  only := by simp
  once := by simp

theorem wired_of_not_skips (h : ¬FieldTag.Skips f.tag) :
    Wired f ⟨nameArguments (FieldTag.wireName f.tag f.name) name ++ emptyArguments f, name⟩ := by
  have hmem {a : Argument} (ha : a.name ≠ "rename") :
      a ∈ nameArguments (FieldTag.wireName f.tag f.name) name ++ emptyArguments f ↔ a ∈ emptyArguments f := by
    refine List.mem_append.trans (or_iff_right fun hname => ?_)
    obtain rfl := eq_of_mem_nameArguments hname
    exact ha rfl
  refine ⟨fun hskip => absurd hskip h, ?_, fun _ => wireName_eq _, ?_, fun test => ?_, ?_, nodup_arguments _⟩
  · rw [hmem (by decide), mem_emptyArguments_iff]
    simp
  · rw [hmem (by decide), mem_emptyArguments_iff]
    simp
  · rw [hmem (by simp [Argument.name]), mem_emptyArguments_iff]
    simp
  · intro a ha
    rcases List.mem_append.mp ha with hname | hempty
    · exact .inr (.inl ⟨_, eq_of_mem_nameArguments hname⟩)
    · obtain ⟨-, rfl | ⟨test, -, rfl⟩⟩ := mem_emptyArguments_iff.mp hempty
      · exact .inr (.inr (.inl rfl))
      · exact .inr (.inr (.inr ⟨test, rfl⟩))

theorem exists_wired (f : FieldArtifact) (name : String) :
    ∃ args : List Argument, serdeArguments f name = args.map Argument.tokens ∧ Wired f ⟨args, name⟩ := by
  by_cases h : FieldTag.Skips f.tag
  · exact ⟨_, serdeArguments_of_skips h, wired_of_skips h⟩
  · exact ⟨_, serdeArguments_of_not_skips h, wired_of_not_skips h⟩

end Arguments

/-! ## Fields -/

theorem commas_eq_intercalate (rows : List (List Token)) : Token.commas rows = [.sign ','].intercalate rows := by
  induction rows with
  | nil => rfl
  | cons ts rest ih =>
    cases rest with
    | nil => simp [Token.commas]
    | cons next rest => simp [Token.commas, ih, List.intercalate_cons_cons]

theorem mapM_read?_tokens (args : List Argument) : (args.map Argument.tokens).mapM Argument.read? = some args := by
  induction args with
  | nil => rfl
  | cons a rest ih => simp [a.read?_tokens, ih]

theorem arguments?_serde {args : List Argument} (hargs : args ≠ []) {ts : Source.Enclosed}
    (hts : ts.tokens = Token.commas (args.map Argument.tokens)) :
    arguments? [.list false false ["serde"] .round ts] = some args := by
  -- No argument has a comma in it, so what is split at commas is what was joined by them.
  have hsplit : ts.tokens.splitOn (.sign ',') = args.map Argument.tokens := by
    rw [hts, commas_eq_intercalate, List.splitOn_intercalate]
    · exact List.forall_mem_map.mpr fun a _ => a.comma_not_mem_tokens
    · simpa using hargs
  rw [arguments?, hsplit, mapM_read?_tokens]

theorem balancedRows_tokens (args : List Argument) : BalancedRows (args.map Argument.tokens) :=
  List.forall_mem_map.mpr fun a _ => by cases a <;> simp [Argument.tokens, Render.setting]

theorem exists_attributes_serde (n : Parser.Nested) {f : FieldArtifact} {name : String} {args : List Argument}
    (h : serdeArguments f name = args.map Argument.tokens) {rest : List Token}
    (hrest : Parser.mark '#' rest = none) : ∃ as, arguments? as = some args ∧
      Parser.loop (Parser.attributes n) (serde f name ++ rest) = some (as, rest) := by
  by_cases hargs : args = []
  · subst hargs
    refine ⟨[], rfl, ?_⟩
    rw [serde, h]
    exact attributes_none n rest hrest
  · have hserde : serde f name = attribute_ "serde" (args.map Argument.tokens) := by
      rw [serde, h]
      obtain ⟨a, rest, rfl⟩ := List.exists_cons_of_ne_nil hargs
      rfl
    rw [hserde]
    exact ⟨_, arguments?_serde hargs rfl, attributes_one n (by decide) (balancedRows_tokens args) hrest⟩

theorem seen?_fieldTokens {config : Config} (hserde : config.serializes = true) {object : String}
    {f : FieldArtifact × String} {row : List Token} (h : fieldTokens config object f = .ok row) (n : Parser.Nested) :
    ∃ s, seen? n row = some s ∧ Wired f.1 s := by
  obtain ⟨-, type, -, rfl⟩ := exists_of_fieldTokens h
  rw [if_pos hserde]
  obtain ⟨args, hargs, hwired⟩ := exists_wired f.1 f.2
  have hhash : Parser.mark '#' (.plain "pub" :: .identifier f.2 :: .sign ':' :: type) = none := rfl
  obtain ⟨as, has, hread⟩ := exists_attributes_serde n hargs hhash
  have hpub : Parser.visibility (.plain "pub" :: .identifier f.2 :: .sign ':' :: type) =
      some (.everywhere, .identifier f.2 :: .sign ':' :: type) := visibility_pub rfl
  refine ⟨⟨args, f.2⟩, ?_, hwired⟩
  simp only [seen?, hread, hpub, Option.bind_eq_bind, Option.bind_some]
  rw [Token.identifier, Token.sign, has]
  rfl

/-! ## Structs -/

/-- A struct of the name of the object, with one field for each of its fields, as the tags ask for. -/
def IsWired (o : ObjectArtifact) (struct : List Token) : Prop :=
  ∃ derives rows, struct = derives ++ [.plain "pub", .plain "struct", .identifier o.name] ++
      Token.inBrackets .curly (Token.commas rows) ∧
    List.Forall₂ (fun f row => ∀ n, ∃ s, seen? n row = some s ∧ Wired f s) o.fields rows

theorem isWired_objectTokens {config : Config} (hserde : config.serializes = true) {ds : List Token}
    {o : ObjectArtifact} {struct : List Token} (h : objectTokens config ds o = .ok struct) : IsWired o struct := by
  obtain ⟨-, rows, hrows, rfl⟩ := exists_of_objectTokens h
  refine ⟨ds, rows, rfl, ?_⟩
  rw [← map_fst_zip_fieldNames o, List.forall₂_map_left_iff]
  exact hrows.imp fun f row hrow n => seen?_fieldTokens hserde hrow n

/-- In a file with a derive for serialization, each field of each struct goes by the name that its tag gives, or else
by its name in the model, and is left out or may be empty when its tag says so. -/
theorem file_wired {config : Config} (hserde : config.serializes = true) {a : Artifacts} {ts : List Token}
    (h : fileTokens config a = .ok ts) :
    ∃ front structs, ts = front ++ structs.flatten ∧ List.Forall₂ IsWired a.objects structs := by
  obtain ⟨imports, -, h⟩ := bind_eq_ok_iff.mp h
  obtain ⟨constants, -, h⟩ := bind_eq_ok_iff.mp h
  obtain ⟨ds, -, h⟩ := bind_eq_ok_iff.mp h
  obtain ⟨objects, hobjects, h⟩ := bind_eq_ok_iff.mp h
  obtain rfl := Except.ok.inj h
  exact ⟨_, objects, rfl, (forall₂_of_mapM hobjects).imp fun o struct => isWired_objectTokens hserde⟩

/-- Identifiers that are counted or escaped, and a field of each sort of tag. -/
def accountArtifacts : Artifacts where
  objects := [⟨"Account", [
    ⟨"Type", .primitive .string, "json:\"type\""⟩,
    ⟨"UserID", .primitive .string, "yaml:\"u\" json:\",omitempty\""⟩,
    ⟨"userId", .option (.primitive .string), "json:\"uid,string,omitempty\""⟩,
    ⟨"Secret", .dateTime, "json:\"-\""⟩,
    ⟨"Line-Items", .vec .any, "json:\"items"⟩]⟩]
  constants := []
  imports := []
  usesDateTime := true

theorem file_wired_account : Config.default.serializes = true ∧ ∃ ts, fileTokens .default accountArtifacts = .ok ts ∧
    ∃ front structs, ts = front ++ structs.flatten ∧ List.Forall₂ IsWired accountArtifacts.objects structs := by
  have hserde : Config.default.serializes = true := by decide
  have h : (fileTokens .default accountArtifacts).toOption.isSome = true := by decide +kernel
  obtain ⟨ts, hts⟩ := exists_eq_ok_of_toOption h
  exact ⟨hserde, ts, hts, file_wired hserde hts⟩

end Render
end Declgen
