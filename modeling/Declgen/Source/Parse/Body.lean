import Declgen.Source.Parse.Item
import Declgen.Source.Statement
import Declgen.Source.Written

/-!
# What stands in braces, from tokens

Here the levels are put together: the parsers of a level are those of the next deeper one, with a node around
them.
-/

namespace Declgen.Source

namespace Parser

/-! ## Fields -/

/-- A name, or the number of a position. -/
def fieldName : Parser String := fun ts =>
  match ts with
  | .literal s :: rest => if s.toList.all Char.isDigit then some (s, rest) else none
  | ts => name ts

def fieldValue (n : Nested) : Parser FieldValue := do
  let as ← loop (attributes n)
  let isNumber ← ahead unsigned
  let w ← fieldName
  if isNumber || (← ahead (mark ':')) then
    mark ':'
    return ⟨as, w, some (← n.anyExpr)⟩
  else return ⟨as, w, none⟩

/-- Fields with commas between them, and where the rest is taken from. -/
def fieldValuesFrom (n : Nested) : List Token → Parser FieldValues
  | [] => do
    ended
    return ⟨[], none⟩
  | _ :: budget => do
    if ← accepts ended then return ⟨[], none⟩
    if ← accepts (marks ['.', '.']) then
      if ← accepts ended then return ⟨[], none⟩
      let e ← n.anyExpr
      ended
      return ⟨[], some e⟩
    let f ← fieldValue n
    if !(← ahead ended) then mark ','
    let fs ← fieldValuesFrom n budget
    return ⟨f :: fs.fields, fs.rest⟩

def fieldValues (n : Nested) : Parser FieldValues := loop (fieldValuesFrom n)

def fieldPattern (n : Nested) (as : List Attribute) : Parser FieldPattern := do
  let byReference ← accepts (keyword "ref")
  let mutable ← accepts (keyword "mut")
  let isNumber ← ahead unsigned
  let w ← fieldName
  if isNumber || !byReference && !mutable && (← ahead (mark ':')) then
    mark ':'
    return ⟨as, some w, ← cases n.pattern⟩
  else return ⟨as, none, .name byReference mutable w none⟩

/-- Fields with commas between them, and dots last if there may be more. -/
def fieldPatternsFrom (n : Nested) : List Token → Parser FieldPatterns
  | [] => do
    ended
    return ⟨[], false⟩
  | _ :: budget => do
    if ← accepts ended then return ⟨[], false⟩
    let as ← loop (attributes n)
    if ← accepts (marks ['.', '.']) then
      ended
      return ⟨[], true⟩
    let f ← fieldPattern n as
    if !(← ahead ended) then mark ','
    let fs ← fieldPatternsFrom n budget
    return ⟨f :: fs.fields, fs.more⟩

def fieldPatterns (n : Nested) : Parser FieldPatterns := loop (fieldPatternsFrom n)

/-! ## Expressions that end themselves -/

/-- An expression of this kind starts here, which is complete where its braces end. -/
def endingAhead : Parser Bool :=
  ahead
    (keywordOf ["if", "while", "loop", "match", "unsafe"] *> pure () <|> keyword "for" *> lacks (mark '<') <|>
      keywordOf ["try", "const"] *> opening .curly <|> opening .curly <|> lifetime *> pure ())

/-- An expression where a statement or an arm starts. After one that ends itself nothing but a field, a method
or a question mark goes on. -/
def leading (n : Nested) : Parser Expr := do
  if ← endingAhead then
    let e ← atom n true
    if ← ahead ((lacks (marks ['.', '.']) *> mark '.') <|> mark '?') then
      let e ← loop fun budget => trailers n budget e
      loop fun budget => further n true 0 budget e
    else return e
  else exprStep n true 0

/-! ## Arms -/

def arm (n : Nested) : Parser Arm := do
  let as ← loop (attributes n)
  let p ← cases (patternStep n)
  let guard ← if ← accepts (keyword "if") then pure (some (← n.anyExpr)) else pure none
  marks ['=', '>']
  let as' ← loop (attributes n)
  let e ← leading n
  let e := if as'.isEmpty then e else .attributed as' e
  if e.endsItself then
    let _ ← accepts (mark ',')
  else if !(← ahead ended) then mark ','
  return ⟨as, p, guard, e⟩

/-! ## Statements -/

/-- A declaration after its keyword. -/
def declare (n : Nested) (as : List Attribute) : Parser Statement := do
  let p ← n.pattern
  let p ← if ← accepts (mark ':') then pure (.typed p (← n.type true)) else pure p
  let value ← if ← accepts (mark '=') then pure (some (← n.anyExpr)) else pure none
  let closed := value.any fun e => (Written.expr e).getLast? = some (Token.closing .curly)
  let otherwise ←
    if value.isSome && !closed && (← accepts (keyword "else")) then pure (some (← code n .statements))
    else pure none
  mark ';'
  return .declare as p value otherwise

/-- An invocation with braces, after which no field and no question mark follows. -/
def bracedAhead : Parser Bool :=
  ahead (simplePath *> mark '!' *> inside .curly *> lacks ((lacks (marks ['.', '.']) *> mark '.') <|> mark '?'))

/-- An invocation that defines something by a name. -/
def definingAhead : Parser Bool := ahead (simplePath *> mark '!' *> (keyword "try" <|> name *> pure ()))

/-- An item starts here. -/
def itemAhead : Parser Bool :=
  ahead
    (keywordOf ["pub", "extern", "use", "fn", "mod", "type", "struct", "enum", "trait", "impl", "macro"] *> pure () <|>
      keyword "crate" *> lacks colons <|>
      keyword "static" *> (keyword "mut" <|> name *> pure ()) <|>
      keyword "const" *>
        lacks (opening .curly <|> keyword "static" <|> keyword "move" <|> mark '|' <|>
          keyword "async" *> lacks (keywordOf ["unsafe", "extern", "fn"])) <|>
      keyword "unsafe" *> lacks (opening .curly) <|>
      keyword "async" *> keywordOf ["unsafe", "extern", "fn"] *> pure () <|>
      keyword "union" *> name *> pure () <|>
      keyword "auto" *> keyword "trait" <|>
      keyword "default" *> keywordOf ["unsafe", "impl"] *> pure ())

/-- An expression with the semicolon behind it. Without one only the last of the statements may be that does not
end itself. -/
def expressed (n : Nested) (as : List Attribute) : Parser Statement := do
  let e ← leading n
  let semicolon ← accepts (mark ';')
  match e, semicolon || e.standsAlone with
  | .invocation absolute path b ts, true => return .invocation as absolute path b ts semicolon
  | e, done =>
    if !done then ended
    return .expr (if as.isEmpty then e else .attributed as e) semicolon

def statement (n : Nested) : Parser Statement := do
  if ← accepts (mark ';') then return .empty
  let start ← get
  let as ← loop (attributes n)
  if ← bracedAhead then
    let (absolute, path) ← simplePath
    mark '!'
    let (b, ts) ← group
    return .invocation as absolute path b ts (← accepts (mark ';'))
  else if ← accepts (keyword "let") then declare n as
  else if (← itemAhead) || (← definingAhead) then
    set start
    return .item (← item n)
  else expressed n as

/-! ## Bodies -/

/-- Inner attributes, and what follows them up to the end. -/
def bodyOf {α : Type} (n : Nested) (part : Parser α) : Parser (List Attribute × List α) := do
  let as ← loop (innerAttributes n)
  let parts ← loop (repeated part)
  return (as, parts)

/-- A parser takes all tokens. -/
def takesAll {α : Type} (p : Parser α) (ts : List Token) : Bool := (p <* ended) ts |>.isSome

def reads (n : Nested) : Code → List Token → Bool
  | .statements => takesAll (bodyOf n (statement n))
  | .arms => takesAll (bodyOf n (arm n))
  | .values => takesAll (fieldValues n)
  | .patterns => takesAll (fieldPatterns n)
  | .items => takesAll (bodyOf n (item n))
  | .traitItems => takesAll (bodyOf n (traitItem n))
  | .methodItems => takesAll (bodyOf n (methodItem n))
  | .externalItems => takesAll (bodyOf n (externalItem n))

/-! ## All levels -/

mutual
def typeAt : Nat → Bool → Parser Ty
  | 0, _ => failure
  | depth + 1, plus => typeStep ⟨typeAt depth, boundAt depth, exprAt depth, patternAt depth, readsAt depth⟩ plus

def boundAt : Nat → Parser Bound
  | 0 => failure
  | depth + 1 => bound ⟨typeAt depth, boundAt depth, exprAt depth, patternAt depth, readsAt depth⟩

def exprAt : Nat → Bool → Nat → Parser Expr
  | 0, _, _ => failure
  | depth + 1, fields, floor =>
    exprStep ⟨typeAt depth, boundAt depth, exprAt depth, patternAt depth, readsAt depth⟩ fields floor

def patternAt : Nat → Parser Pattern
  | 0 => failure
  | depth + 1 => patternStep ⟨typeAt depth, boundAt depth, exprAt depth, patternAt depth, readsAt depth⟩

def readsAt : Nat → Code → List Token → Bool
  | 0, _, _ => false
  | depth + 1, c, ts => reads ⟨typeAt depth, boundAt depth, exprAt depth, patternAt depth, readsAt depth⟩ c ts
end

/-- The parsers of nodes of any depth that tokens can hold. -/
def any (ts : List Token) : Nested :=
  let depth := ts.length + 1
  ⟨typeAt depth, boundAt depth, exprAt depth, patternAt depth, readsAt depth⟩

end Parser

/-- The tokens are a path and nothing else: whether it is absolute, and its parts. -/
def path? (ts : List Token) : Option (Bool × List Segment) :=
  match Parser.path (Parser.any ts) false ts with
  | some (p, []) => some p
  | _ => none

/-- The items of a file. -/
def items? (ts : List Token) : Option (List Item) :=
  match Parser.loop (Parser.repeated (Parser.item (Parser.any ts))) ts with
  | some (is, _) => some is
  | none => none

end Declgen.Source
