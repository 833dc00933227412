import Declgen.Proofs.Pass.Complete
import Declgen.Proofs.Render.Types
import Declgen.Render.File
import Mathlib.Tactic.Tauto

/-!
# What names stand for

A file names types that it does not generate: primitive types, types of the prelude, what it imports, and crates at
the head of a path. Some of these names are written by the generator itself, others stand in texts that it is given.
What a name stands for is settled by what the file declares: what is generated comes before what is imported, and both
before what is there without asking.
-/

namespace Declgen

open Source (Token)

/-! ## Heads of paths -/

namespace Source

/-- The words with which the paths in a text start, where `behind` tells that two colons are in front of the text. -/
def heads : Bool → List Token → List String
  | _, [] => []
  | _, .mark ':' true :: .mark ':' _ :: rest => heads true rest
  | _, .mark '\'' _ :: .word _ _ :: rest => heads false rest
  | true, .word _ _ :: rest => heads false rest
  | false, .word name raw :: rest => if !raw && isReserved name then heads false rest else name :: heads false rest
  | _, .mark _ _ :: rest | _, .literal _ :: rest | _, .opening _ :: rest | _, .closing _ :: rest => heads false rest

/-- The heads in a text. One that cannot be cut into tokens has none. -/
def headsIn (behind : Bool) (text : String) : List String := ((tokens? text).map (heads behind)).getD []

example : headsIn false "Vec<clock::Wall, crate::Tick, &'a r#type>" = ["Vec", "clock", "type"] := by decide +kernel

section Heads

variable {c : Char} {joint : Bool} {name : String}

theorem heads_mark (hcolon : c ≠ ':') (hquote : c ≠ '\'') (behind : Bool) (rest : List Token) :
    heads behind (.mark c joint :: rest) = heads false rest := by
  simp [heads, hcolon, hquote]

theorem heads_append (hcolon : c ≠ ':') (hquote : c ≠ '\'') (behind : Bool) (ts rest : List Token) :
    heads behind (ts ++ .mark c joint :: rest) = heads behind ts ++ heads false rest := by
  fun_induction heads behind ts with
  | case1 => simp [heads_mark hcolon hquote]
  | case2 _ _ _ ih | case3 _ _ _ _ _ ih | case4 _ _ _ ih => simp [heads, ih]
  | case5 _ _ _ hskip ih | case6 _ _ _ hskip ih => simp [heads, ih, hskip]
  | case7 _ _ _ ts hpath hlifetime ih =>
    rw [List.cons_append, heads, ih]
    · intro k more hmore
      cases ts with
      | nil => simp_all
      | cons t ts =>
        obtain ⟨rfl, -⟩ := List.cons.inj hmore
        exact hpath k ts rfl
    · intro name raw more hmore
      cases ts with
      | nil => simp_all
      | cons t ts =>
        obtain ⟨rfl, -⟩ := List.cons.inj hmore
        exact hlifetime name raw ts rfl
  | case8 _ _ _ ih | case9 _ _ _ ih | case10 _ _ _ ih => simp [heads, ih]

theorem heads_plain (h : isReserved name = false) (rest : List Token) :
    heads false (.plain name :: rest) = name :: heads false rest := by
  simp [heads, Token.plain, h]

theorem heads_identifier (h : isIdentifier name = true) (rest : List Token) :
    heads false (.identifier name :: rest) = name :: heads false rest := by
  have hraw : canBeRaw name = true := (Bool.and_eq_true_iff.mp h).2
  cases hkeyword : isKeyword name with
  | true => simp [heads, Token.identifier, hkeyword]
  | false =>
    have hfree : isReserved name = false := by simpa [isReserved, hkeyword, canBeRaw] using hraw
    simp [heads, Token.identifier, hkeyword, hfree]

theorem heads_colons (behind : Bool) (rest : List Token) : heads behind (Token.colons ++ rest) = heads true rest := by
  simp [heads, Token.colons]

end Heads

end Source

/-! ## What is relied on -/

namespace TypeExpr

/-- The names that the generator writes in a type for what it does not generate. -/
def written : TypeExpr → List String
  | .primitive p => [p.sourceName]
  | .struct _ | .typeAlias _ | .external none _ => []
  | .external (some importAlias) _ => [importAlias]
  | .vec inner => "Vec" :: inner.written
  | .map key value => "std" :: (key.written ++ value.written)
  | .option inner => "Option" :: inner.written
  | .boxed inner => "Box" :: inner.written
  | .dateTime => ["DateTime", "Utc"]
  | .any => ["serde_json"]

/-- The heads in the texts that stand in a type. Behind an import alias a text goes on with its path. -/
def given : TypeExpr → List String
  | .external importAlias text => Source.headsIn importAlias.isSome text
  | .vec inner | .option inner | .boxed inner => inner.given
  | .map key value => key.given ++ value.given
  | .primitive _ | .struct _ | .typeAlias _ | .dateTime | .any => []

end TypeExpr

/-- The type of the block, and that of its texts if there are any. -/
def ConstantArtifact.written (c : ConstantArtifact) : List String :=
  c.base.sourceName :: if c.base = .string ∧ c.entries ≠ [] then ["str"] else []

/-- A derive of one word is no type. One of several names a crate or a module at its head. -/
def deriveHeads (derive : String) : List String :=
  match Source.tokens? derive with
  | none | some [_] => []
  | some ts => Source.heads false ts

namespace Artifacts

/-- What the generator writes: in the types of fields, in constant blocks, for imports and for dates. -/
def written (a : Artifacts) : List String :=
  a.fieldTypes.flatMap TypeExpr.written ++ a.constants.flatMap ConstantArtifact.written ++
    a.imports.map (·.importAlias) ++ if a.usesDateTime then ["chrono", "DateTime", "Utc"] else []

/-- What the texts start paths with that a file is given: types and paths from the hook, and derives. -/
def given (a : Artifacts) (config : Config) : List String :=
  a.fieldTypes.flatMap TypeExpr.given ++ a.imports.flatMap (Source.headsIn false ·.path) ++
    if a.objects.isEmpty then [] else config.derives.flatMap deriveHeads

/-- The names that a file relies on without generating them. -/
def reliedOn (a : Artifacts) (config : Config) : List String := a.written ++ a.given config

/-! ## What is meant -/

/-- What a type name stands for in a file. -/
inductive Meaning where
  | struct
  | typeAlias
  | imported (path : String)
  | date
  /-- A crate, or a type of the language or of its prelude. -/
  | builtIn
deriving DecidableEq

def meaning (a : Artifacts) (name : String) : Meaning :=
  if name ∈ a.objects.map (·.name) then .struct
  else if name ∈ a.constants.map (·.name) then .typeAlias
  else
    match a.imports.find? (·.importAlias == name) with
    | some i => .imported i.path
    | none => if a.usesDateTime ∧ (name = "DateTime" ∨ name = "Utc") then .date else .builtIn

/-- Each name in the type stands for what it is written for. A text that is given stands for what is not generated. -/
def Means (a : Artifacts) : TypeExpr → Prop
  | .primitive p => a.meaning p.sourceName = .builtIn
  | .struct name => a.meaning name = .struct
  | .typeAlias name => a.meaning name = .typeAlias
  | .external none text => ∀ name ∈ Source.headsIn false text, name ∉ a.names
  | .external (some alias_) text =>
    (∃ path, alias_ = importAlias path ∧ a.meaning alias_ = .imported path ∧
      ∀ name ∈ Source.headsIn false path, name ∉ a.names) ∧
    ∀ name ∈ Source.headsIn true text, name ∉ a.names
  | .vec inner => a.meaning "Vec" = .builtIn ∧ a.Means inner
  | .map key value => a.meaning "std" = .builtIn ∧ a.Means key ∧ a.Means value
  | .option inner => a.meaning "Option" = .builtIn ∧ a.Means inner
  | .boxed inner => a.meaning "Box" = .builtIn ∧ a.Means inner
  | .dateTime => a.meaning "DateTime" = .date ∧ a.meaning "Utc" = .date
  | .any => a.meaning "serde_json" = .builtIn

/-- No generated type has a name that the file relies on, and every type in a field is what it says. -/
structure Hygienic (a : Artifacts) (config : Config) : Prop where
  apart : ∀ name ∈ a.names, name ∉ a.reliedOn config
  meant : ∀ t ∈ a.fieldTypes, a.Means t

end Artifacts

/-! ## Nothing else is written in a type -/

section Types

variable {t : TypeExpr} {ts : List Token} {name : String}

theorem heads_generic {path : List String} {args : List (List Token)} {head : String}
    (hpath : ∀ rest, Source.heads false (Render.pathTokens path ++ .sign '<' :: rest) =
      head :: Source.heads false rest) :
    Source.heads false (Render.generic path args) = head :: args.flatMap (Source.heads false) := by
  have hcommas : Source.heads false (Token.commas args ++ [.sign '>']) = args.flatMap (Source.heads false) := by
    induction args with
    | nil => simp [Token.commas, Source.heads, Token.sign]
    | cons ts rest ih =>
      cases rest with
      | nil => simp [Token.commas, Token.sign, Source.heads_append, Source.heads]
      | cons more rest =>
        rw [Token.commas, List.append_assoc, List.cons_append, Token.sign,
          Source.heads_append (by decide) (by decide), ih]
        · rfl
        · simp
  rw [Render.generic, List.append_assoc, List.cons_append, hpath, hcommas]

theorem heads_container {name : String} (h : Source.isReserved name = false) (args : List (List Token)) :
    Source.heads false (Render.generic [name] args) = name :: args.flatMap (Source.heads false) := by
  refine heads_generic fun rest => ?_
  rw [Render.pathTokens, List.singleton_append, Source.heads_plain h, Token.sign,
    Source.heads_mark (by decide) (by decide)]

theorem mem_heads_externalTokens {importAlias : Option String} {text : String}
    (h : Render.externalTokens importAlias text = .ok ts) :
    name ∈ Source.heads false ts ↔ some name = importAlias ∨ name ∈ Source.headsIn importAlias.isSome text := by
  obtain ⟨row, hrow, h⟩ := bind_eq_ok_iff.mp h
  have htokens : Source.tokens? text = some row := by
    unfold Render.outside at hrow
    split at hrow
    · obtain rfl := Except.ok.inj hrow
      assumption
    · simp at hrow
  cases importAlias with
  | none =>
    obtain rfl := Except.ok.inj h
    simp [Source.headsIn, htokens]
  | some other =>
    obtain ⟨token, htoken, hout⟩ := bind_eq_ok_iff.mp h
    obtain rfl := Except.ok.inj hout
    obtain ⟨hidentifier, rfl⟩ := Render.identifier_eq_ok_iff.mp htoken
    rw [List.cons_append, Source.heads_identifier hidentifier, Source.heads_colons]
    simp [Source.headsIn, htokens]

/-- The paths in what is written for a type start with the names that the type relies on and with what it mentions. -/
theorem mem_heads_typeTokens (h : Render.typeTokens t = .ok ts) :
    name ∈ Source.heads false ts ↔
      name ∈ t.written ∨ name ∈ t.given ∨ .struct name ∈ t.parts ∨ .typeAlias name ∈ t.parts := by
  induction t generalizing ts with
  | primitive p =>
    obtain rfl := Except.ok.inj h
    have hfree : Source.isReserved p.sourceName = false := by
      cases p with
      | number repr => cases repr <;> decide
      | _ => decide
    rw [Source.heads_plain hfree]
    simp [Source.heads, TypeExpr.written, TypeExpr.given, TypeExpr.parts]
  | struct other | typeAlias other =>
    obtain ⟨token, htoken, hout⟩ := bind_eq_ok_iff.mp h
    obtain rfl := Except.ok.inj hout
    obtain ⟨hidentifier, rfl⟩ := Render.identifier_eq_ok_iff.mp htoken
    rw [Source.heads_identifier hidentifier]
    simp [Source.heads, TypeExpr.written, TypeExpr.given, TypeExpr.parts]
  | external importAlias text =>
    rw [mem_heads_externalTokens h]
    cases importAlias <;> simp [TypeExpr.written, TypeExpr.given, TypeExpr.parts]
  | vec inner ih | option inner ih | boxed inner ih =>
    obtain ⟨row, hrow, hout⟩ := bind_eq_ok_iff.mp h
    obtain rfl := Except.ok.inj hout
    rw [heads_container (by decide)]
    simp [TypeExpr.written, TypeExpr.given, TypeExpr.parts, ih hrow, or_assoc]
  | map key value ihk ihv =>
    obtain ⟨ks, hks, h⟩ := bind_eq_ok_iff.mp h
    obtain ⟨vs, hvs, hout⟩ := bind_eq_ok_iff.mp h
    obtain rfl := Except.ok.inj hout
    have hstd : Source.isReserved "std" = false := by decide
    have hpath : ∀ rest, Source.heads false (Render.pathTokens Render.mapPath ++ .sign '<' :: rest) =
        "std" :: Source.heads false rest := by
      intro rest
      simp [Render.mapPath, Render.pathTokens, Token.plain, Token.colons, Token.sign, Source.heads, hstd]
    rw [heads_generic hpath]
    simp only [List.flatMap_cons, List.flatMap_nil, List.append_nil, List.mem_cons, List.mem_append, ihk hks, ihv hvs,
      TypeExpr.written, TypeExpr.given, TypeExpr.parts, reduceCtorEq, false_or]
    tauto
  | dateTime =>
    obtain rfl := Except.ok.inj h
    have hutc : Source.isReserved "Utc" = false := by decide
    rw [heads_container (by decide)]
    simp [TypeExpr.written, TypeExpr.given, TypeExpr.parts, Source.heads_plain hutc, Source.heads]
  | any =>
    obtain rfl := Except.ok.inj h
    have hcrate : Source.isReserved "serde_json" = false := by decide
    simp [TypeExpr.written, TypeExpr.given, TypeExpr.parts, Render.pathTokens, Token.plain, Token.colons,
      Source.heads, hcrate]

end Types

end Declgen
