import Declgen.Source.Parse.Expression
import Declgen.Source.Parse.Generic

/-!
# Items from tokens
-/

namespace Declgen.Source.Parser

/-! ## Bodies -/

/-- Braces with inner attributes first. -/
def body (n : Nested) (c : Code) : Parser Body := do
  let ts ← inside .curly
  require (n.reads c ts)
  match loop (innerAttributes n) ts with
  | some (as, rest) => return ⟨as, rest⟩
  | none => failure

/-! ## Imports -/

/-- A name in an import. -/
def useName : Parser String := keywordOf ["self", "super", "crate", "try"] <|> name

/-- What is imported. What is inside takes fewer tokens than the whole, so a budget of all of them is enough. -/
def useTreeAt : List Token → Parser UseTree
  | [] => failure
  | _ :: budget => do
    if ← accepts (mark '*') then return .glob
    if ← accepts (opening .curly) then
      let (trees, _) ← listed (useTreeAt budget) (closing .curly)
      return .group trees
    let n ← useName
    if ← accepts colons then return .inside n (← useTreeAt budget)
    if ← accepts (keyword "as") then return .rename n (← keywordOf ["_"] <|> name)
    return .name n

def useTree : Parser UseTree := loop useTreeAt

/-! ## Fields -/

/-- A field has a name, or an underscore instead. -/
def namedField (n : Nested) : Parser Field := do
  let as ← loop (attributes n)
  let v ← visibility
  let w ← keywordOf ["_"] <|> name
  mark ':'
  return ⟨as, v, some w, ← n.type true⟩

def positionalField (n : Nested) : Parser Field := do
  let as ← loop (attributes n)
  let v ← visibility
  return ⟨as, v, none, ← n.type true⟩

def fields (n : Nested) : Parser Fields := do
  if ← accepts (opening .curly) then return .named (← listed (namedField n) (closing .curly)).1
  if ← accepts (opening .round) then return .positional (← listed (positionalField n) (closing .round)).1
  return .nothing

/-- Conditions may stand before fields in braces and after fields in brackets. -/
def structFields (n : Nested) : Parser (List Predicate × Fields) := do
  let before ← whereClause n
  if ← accepts (opening .curly) then return (before, .named (← listed (namedField n) (closing .curly)).1)
  if before.isEmpty && (← accepts (opening .round)) then
    let (fs, _) ← listed (positionalField n) (closing .round)
    let after ← whereClause n
    mark ';'
    return (after, .positional fs)
  mark ';'
  return (before, .nothing)

/-- A struct after its keyword. -/
def struct (n : Nested) : Parser Declaration := do
  let w ← name
  let ps ← parameters? n
  let (where_, fs) ← structFields n
  return .struct w ⟨ps, where_⟩ fs

def variant (n : Nested) : Parser Variant := do
  let as ← loop (attributes n)
  let _ ← visibility
  let w ← name
  let fs ← fields n
  if ← accepts (mark '=') then return ⟨as, w, fs, some (← n.anyExpr)⟩
  return ⟨as, w, fs, none⟩

/-! ## Functions -/

def receiver (n : Nested) (as : List Attribute) : Parser Input := do
  let reference ← if ← accepts (mark '&') then pure (some (← optionally lifetime)) else pure none
  let mutable ← accepts (keyword "mut")
  keyword "self"
  if reference.isNone && (← accepts (mark ':')) then
    return .receiver as reference mutable (some (← n.type true))
  return .receiver as reference mutable none

def input (n : Nested) : Parser Input := do
  let as ← loop (attributes n)
  if ← accepts (marks ['.', '.', '.']) then return .variadic as none
  match ← optionally (receiver n as) with
  | some i => return i
  | none =>
    if ← ahead (name *> mark '<') then return .typed as .wild (← n.type true)
    let p ← n.pattern
    mark ':'
    if ← accepts (marks ['.', '.', '.']) then return .variadic as (some p)
    return .typed as p (← n.type true)

/-- A receiver stands first, and nothing stands after what is variadic. -/
def areInputs : List Input → Bool
  | [] => true
  | i :: is => (is.all fun i => !i.isReceiver) && (!i.isVariadic || is.isEmpty) && areInputs is

/-- A function up to its body. -/
def signature (n : Nested) : Parser Signature := do
  let constant ← accepts (keyword "const")
  let async ← accepts (keyword "async")
  let unchecked ← accepts (keyword "unsafe")
  let abi ← if ← accepts (keyword "extern") then pure (some (← optionally abiName)) else pure none
  keyword "fn"
  let w ← name
  let ps ← parameters? n
  opening .round
  let (inputs, _) ← listed (input n) (closing .round)
  require (areInputs inputs)
  let r ← if ← accepts (marks ['-', '>']) then pure (some (← n.type true)) else pure none
  let where_ ← whereClause n
  return ⟨constant, async, unchecked, abi, w, ⟨ps, where_⟩, inputs, r⟩

/-- A function starts here. -/
def functionAhead : Parser Bool :=
  ahead do
    let _ ← accepts (keyword "const")
    let _ ← accepts (keyword "async")
    let _ ← accepts (keyword "unsafe")
    if ← accepts (keyword "extern") then
      let _ ← optionally abiName
    keyword "fn"

/-! ## Types and constants -/

/-- A type with all that may belong to it: its bounds, and conditions before what it stands for or after. -/
def typeAlias (n : Nested) (conditionsFirst : Bool) :
    Parser (String × Generics × List Bound × Option Ty) := do
  keyword "type"
  let w ← name
  let ps ← parameters? n
  let bs ← typeBounds n (keyword "where" <|> mark '=' <|> mark ';')
  let before ← if conditionsFirst then whereClause n else pure []
  let t ← if ← accepts (mark '=') then pure (some (← n.type true)) else pure none
  let after ← if conditionsFirst then pure [] else whereClause n
  mark ';'
  return (w, ⟨ps, before ++ after⟩, bs, t)

/-- A type that stands for another one. -/
def plainAlias (n : Nested) : Parser Declaration := do
  match ← typeAlias n true with
  | (w, g, [], some t) => return .typeAlias w g t
  | _ => failure

/-- Written as `const name: type = value`. -/
def constantItem (n : Nested) (overridable : Bool) : Parser Declaration := do
  keyword "const"
  let w ← keywordOf ["_"] <|> name
  mark ':'
  let t ← n.type true
  let e ← if ← accepts (mark '=') then pure (some (← n.anyExpr)) else pure none
  mark ';'
  return .constant overridable w t e

/-- A constant that has a value. -/
def valuedConstant (n : Nested) (overridable : Bool) : Parser Declaration := do
  match ← constantItem n overridable with
  | .constant o w t (some e) => return .constant o w t (some e)
  | _ => failure

def static (n : Nested) : Parser Declaration := do
  keyword "static"
  let mutable ← accepts (keyword "mut")
  let w ← name
  mark ':'
  let t ← n.type true
  let e ← if ← accepts (mark '=') then pure (some (← n.anyExpr)) else pure none
  mark ';'
  return .static mutable w t e

/-! ## Containers of items -/

def module (n : Nested) : Parser Declaration := do
  let unchecked ← accepts (keyword "unsafe")
  keyword "mod"
  let w ← keywordOf ["try"] <|> name
  if ← accepts (mark ';') then return .module unchecked w none
  return .module unchecked w (some (← body n .items))

def external (n : Nested) : Parser Declaration := do
  let unchecked ← accepts (keyword "unsafe")
  keyword "extern"
  let abi ← optionally abiName
  return .external unchecked abi (← body n .externalItems)

/-- A trait, or a name for bounds. -/
def trait (n : Nested) : Parser Declaration := do
  let unchecked ← accepts (keyword "unsafe")
  let automatic ← accepts (keyword "auto")
  keyword "trait"
  let w ← name
  let ps ← parameters? n
  if !unchecked && !automatic && (← accepts (mark '=')) then
    let (bs, _) ← loop (separated n.bound (mark '+') (sees (keyword "where" <|> mark ';')))
    let where_ ← whereClause n
    mark ';'
    return .traitAlias w ⟨ps, where_⟩ bs
  let bs ← typeBounds n (keyword "where" <|> opening .curly)
  let where_ ← whereClause n
  return .trait unchecked automatic w ⟨ps, where_⟩ bs (← body n .traitItems)

/-- Angle brackets hold parameters here, and do not start a type. -/
def parametersAhead : Parser Bool :=
  ahead
    (mark '<' *>
      (mark '>' <|> mark '#' <|> keyword "const" <|>
        (lifetime *> pure () <|> name *> pure ()) *>
          (mark '>' <|> mark ',' <|> lacks colons *> mark ':' <|> mark '=')))

def implementation (n : Nested) : Parser Declaration := do
  let overridable ← accepts (keyword "default")
  let unchecked ← accepts (keyword "unsafe")
  keyword "impl"
  let ps ← if ← parametersAhead then parameters? n else pure []
  let negative ← accepts (mark '!' <* lacks (opening .curly))
  let first ← n.type true
  if ← accepts (keyword "for") then
    match first with
    | .path absolute ss =>
      let self ← n.type true
      let where_ ← whereClause n
      return .implementation overridable unchecked ⟨ps, where_⟩ negative (some (absolute, ss)) self
        (← body n .methodItems)
    | _ => failure
  else
    require (!negative)
    let where_ ← whereClause n
    return .implementation overridable unchecked ⟨ps, where_⟩ false none first (← body n .methodItems)

/-! ## Invocations -/

/-- An invocation that is an item; only braces end it. -/
def invocationItem (named : Bool) : Parser Declaration := do
  let (absolute, path) ← simplePath
  mark '!'
  let w ← if named then optionally (keywordOf ["try"] <|> name) else pure none
  let (b, ts) ← group
  if b != .curly then mark ';'
  return .invocation absolute path w b ts

/-! ## Items -/

/-- What starts with a word of its own. -/
def declaration (n : Nested) : Parser Declaration := do
  if ← functionAhead then
    let s ← signature n
    return .function false s (some (← body n .statements))
  else if ← ahead (keyword "extern" *> keyword "crate") then
    keyword "extern"
    keyword "crate"
    let w ← keywordOf ["self"] <|> name
    let m ← if ← accepts (keyword "as") then pure (some (← keywordOf ["_"] <|> name)) else pure none
    mark ';'
    return .externalCrate w m
  else if ← ahead (optionally (keyword "unsafe") *> keyword "extern") then external n
  else if ← accepts (keyword "use") then
    let absolute ← accepts colons
    let tree ← useTree
    mark ';'
    return .use_ absolute tree
  else if ← ahead (keyword "static") then
    match ← static n with
    | .static mutable w t (some e) => return .static mutable w t (some e)
    | _ => failure
  else if ← ahead (keyword "const") then valuedConstant n false
  else if ← ahead (optionally (keyword "unsafe") *> keyword "mod") then module n
  else if ← ahead (keyword "type") then plainAlias n
  else if ← accepts (keyword "struct") then struct n
  else if ← accepts (keyword "enum") then
    let w ← name
    let ps ← parameters? n
    let where_ ← whereClause n
    opening .curly
    return .enum w ⟨ps, where_⟩ (← listed (variant n) (closing .curly)).1
  else if ← accepts (keyword "union" <* sees name) then
    let w ← name
    let ps ← parameters? n
    let where_ ← whereClause n
    opening .curly
    return .union w ⟨ps, where_⟩ (← listed (namedField n) (closing .curly)).1
  else if ← ahead (optionally (keyword "unsafe") *> optionally (keyword "auto") *> keyword "trait") then trait n
  else implementation n

def item (n : Nested) : Parser Item := do
  let as ← loop (attributes n)
  let v ← visibility
  match ← optionally (declaration n) with
  | some d => return ⟨as, v, d⟩
  | none =>
    require (v = .inherited)
    return ⟨as, v, ← invocationItem true⟩

/-! ## Items of traits, types and foreign code -/

/-- A function that may lack its body. -/
def outlined (n : Nested) : Parser Declaration := do
  let s ← signature n
  if ← accepts (mark ';') then return .function false s none
  return .function false s (some (← body n .statements))

def traitItem (n : Nested) : Parser Item := do
  let as ← loop (attributes n)
  let d ←
    if ← functionAhead then outlined n
    else if ← ahead (keyword "const") then constantItem n false
    else if ← ahead (keyword "type") then
      let (w, g, bs, t) ← typeAlias n false
      pure (.associatedType false w g bs t)
    else invocationItem false
  return ⟨as, .inherited, d⟩

def methodItem (n : Nested) : Parser Item := do
  let as ← loop (attributes n)
  let v ← visibility
  let overridable ← accepts (keyword "default" <* lacks (mark '!'))
  let d ←
    if ← functionAhead then
      let s ← signature n
      pure (.function overridable s (some (← body n .statements)))
    else if ← ahead (keyword "const") then valuedConstant n overridable
    else if ← ahead (keyword "type") then
      match ← typeAlias n false with
      | (w, g, [], some t) => pure (.associatedType overridable w g [] (some t))
      | _ => failure
    else
      require (v = .inherited && !overridable)
      invocationItem false
  return ⟨as, v, d⟩

def externalItem (n : Nested) : Parser Item := do
  let as ← loop (attributes n)
  let v ← visibility
  let d ←
    if ← functionAhead then
      let s ← signature n
      mark ';'
      pure (.function false s none)
    else if ← ahead (keyword "static") then
      match ← static n with
      | .static mutable w t none => pure (.static mutable w t none)
      | _ => failure
    else if ← ahead (keyword "type") then
      match ← typeAlias n true with
      | (w, g, [], none) => pure (.externalType w g)
      | _ => failure
    else
      require (v = .inherited)
      invocationItem false
  return ⟨as, v, d⟩

end Declgen.Source.Parser
