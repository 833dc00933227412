import Declgen.Source.Grammar
import Declgen.Source.Parse.Basic

/-!
# Types from tokens

Nodes contain each other. The parsers of one level are given those of the next deeper one, and levels are
counted: no node lies deeper than there are tokens.
-/

namespace Declgen.Source.Parser

/-- What stands in braces. -/
inductive Code where
  | statements | arms | values | patterns | items | traitItems | methodItems | externalItems
deriving DecidableEq

/-- The parsers of what stands one level deeper. -/
structure Nested where
  /-- A type; whether bounds may be added to it. -/
  type : Bool → Parser Ty
  bound : Parser Bound
  /-- An expression; whether braces after a path hold fields, and how tightly its operators bind at least. -/
  expr : Bool → Nat → Parser Expr
  pattern : Parser Pattern
  /-- Whether tokens can stand in braces. -/
  reads : Code → List Token → Bool

/-- An expression that stands alone. -/
def Nested.anyExpr (n : Nested) : Parser Expr := n.expr true 0

/-- The tokens in braces, if they can stand there. -/
def code (n : Nested) (c : Code) : Parser Enclosed := do
  let ts ← inside .curly
  require (n.reads c ts)
  return ts

/-! ## Arguments -/

/-- Statements in braces, behind keywords that are read already. -/
def block (n : Nested) (keywords : List String) : Parser Expr := do
  return .block none keywords (← code n .statements)

/-- An expression that may be an argument: a literal or a block. -/
def constant (n : Nested) : Parser Expr := (do return .literal (← literal)) <|> block n []

/-- An argument that starts here is an expression. -/
def constantAhead : Parser Bool := ahead (opening .curly <|> literal *> pure ())

/-- What an argument goes on with after a name of its own: what the name is bound to, or by. -/
def afterName (n : Nested) (s : Segment) : Parser Arg := do
  if ← accepts (mark '=') then
    if ← constantAhead then return .valueBinding s (← constant n)
    return .typeBinding s (← n.type true)
  if ← accepts (mark ':') then
    let (bounds, trailing) ← loop (separated n.bound (mark '+') (sees (mark ',' <|> mark '>')))
    return .constraint s bounds trailing
  return .type (.path false [s])

def argument (n : Nested) : Parser Arg := do
  if ← ahead (lifetime *> lacks (mark '+')) then return .lifetime (← lifetime)
  if ← constantAhead then return .value (← constant n)
  match ← n.type true with
  | .path false [.plain name] => afterName n (.plain name)
  | .path false [.angled name turbofish args trailing] => afterName n (.angled name turbofish args trailing)
  | t => return .type t

/-! ## Paths -/

/-- An angle bracket that opens. As a part of `<=` or `<<=` it does not. -/
def angle : Parser Unit
  | .mark '<' true :: .mark '=' _ :: _ => none
  | .mark '<' true :: .mark '<' true :: .mark '=' _ :: _ => none
  | ts => mark '<' ts

/-- Colons before an angle bracket. -/
def turbofish : Parser Unit := colons *> mark '<'

/-- A part of a path. Some keywords stand in it without arguments. In an expression arguments need a
turbofish. -/
def segment (n : Nested) (inExpr : Bool) : Parser Segment := do
  match ← optionally (keywordOf ["self", "super", "crate", "try"]) with
  | some w => return .plain w
  | none =>
    let w ← keywordOf ["Self"] <|> name
    let fish ← ahead turbofish
    if fish || !inExpr && (← ahead angle) then
      let _ ← accepts colons
      mark '<'
      let (args, trailing) ← listed (argument n) (mark '>')
      return .angled w fish args trailing
    else return .plain w

/-- Parts of a path with two colons between them. -/
def segments (n : Nested) (inExpr : Bool) : List Token → Parser (List Segment)
  | [] => failure
  | _ :: budget => do
    let s ← segment n inExpr
    if ← accepts colons then return s :: (← segments n inExpr budget) else return [s]

/-- Whether a path is absolute, and its parts. -/
def path (n : Nested) (inExpr : Bool) : Parser (Bool × List Segment) := do
  let absolute ← accepts colons
  let ss ← loop (segments n inExpr)
  return (absolute, ss)

/-- Written as `<self as trait>::rest`. -/
def projection (n : Nested) (inExpr : Bool) : Parser (Ty × Bool × List Segment × List Segment) := do
  mark '<'
  let self ← n.type true
  let (absolute, trait) ← if ← accepts (keyword "as") then path n false else pure (false, [])
  mark '>'
  colons
  let rest ← loop (segments n inExpr)
  return (self, absolute, trait, rest)

/-! ## Round brackets in paths -/

/-- What a function returns. -/
def result (n : Nested) : Parser (Option Ty) := do
  if ← accepts (marks ['-', '>']) then return some (← n.type false) else return none

/-- A round bracket may stand behind the last part of a path if nothing else stands there. -/
def inputsAhead (ss : List Segment) : Parser Bool :=
  if ss.getLast?.any Segment.isBare then ahead (opening .round) else pure false

/-- Puts a round bracket behind the last part of a path. -/
def withInputs (n : Nested) (ss : List Segment) : Parser (List Segment) := do
  opening .round
  let (inputs, trailing) ← listed (n.type true) (closing .round)
  let r ← result n
  return ss.dropLast ++ (ss.getLast?.map fun s => Segment.rounded s.name inputs trailing r).toList

/-- The path may go on after a round bracket, as its result is not open at the end. -/
def goesOn (ss : List Segment) : Bool :=
  match ss.getLast? with
  | some (.rounded _ _ _ none) => true
  | some (.rounded _ _ _ (some (.parenthesized _))) => true
  | _ => false

/-- Puts round brackets where they stand in a path, which may go on after them. -/
def withAllInputs (n : Nested) : List Token → List Segment → Parser (List Segment)
  | [], ss => pure ss
  | _ :: budget, ss => do
    if ← inputsAhead ss then
      let ss ← withInputs n ss
      if goesOn ss then
        if ← accepts colons then
          let more ← loop (segments n false)
          withAllInputs n budget (ss ++ more)
        else pure ss
      else pure ss
    else pure ss

/-! ## Bounds -/

def binder : Parser Binder := do
  keyword "for"
  mark '<'
  let (lifetimes, trailing) ← listed lifetime (mark '>')
  return ⟨lifetimes, trailing⟩

def traitBound (n : Nested) (wrapped : Bool) : Parser Bound := do
  let before ← optionally binder
  let relaxed ← accepts (mark '?')
  let b ← if relaxed && before.isNone then optionally binder else pure before
  let (absolute, ss) ← path n false
  let ss ← if ← inputsAhead ss then withInputs n ss else pure ss
  return .trait wrapped b relaxed absolute ss

def bound (n : Nested) : Parser Bound := do
  match ← optionally lifetime with
  | some l => return .lifetime l
  | none => inBrackets .round (traitBound n true) <|> traitBound n false

/-- Written as `use<names>`. -/
def captures : Parser Bound := do
  keyword "use"
  mark '<'
  let (names, trailing) ← listed ((do return "'" ++ (← lifetime)) <|> keywordOf ["Self"] <|> name) (mark '>')
  return .captured names trailing

/-- A bound could start here. -/
def boundAhead : Parser Bool := fun ts =>
  match ts with
  | .word _ _ :: _ | .opening .round :: _ | .mark '?' _ :: _ => some (true, ts)
  | ts => ahead (colons <|> lifetime *> pure ()) ts

/-- Bounds after others, each behind a plus sign, and whether such a sign stands after the last. -/
def furtherBounds (one : Parser Bound) : List Token → Parser (List Bound × Bool)
  | [] => pure ([], false)
  | _ :: budget => do
    if ← accepts (mark '+') then
      if ← boundAhead then
        let b ← one
        let (bs, trailing) ← furtherBounds one budget
        return (b :: bs, trailing)
      else return ([], true)
    else return ([], false)

/-- Bounds of a type, one of them a trait. Where none may be added there is only one. -/
def bounds (one : Parser Bound) (plus : Bool) : Parser (List Bound × Bool) := do
  let b ← one
  let (bs, trailing) ← if plus then loop (furtherBounds one) else pure ([], false)
  if (b :: bs).any Bound.isTrait then return (b :: bs, trailing) else failure

/-- What is only known by bounds, of which the first is read already. -/
def objectFrom (n : Nested) (first : Bound) : Parser Ty := do
  let (bs, trailing) ← loop (furtherBounds (bound n))
  return .object false (first :: bs) trailing

/-! ## Functions -/

/-- The name of an input, with its colon. Only the first may be the receiver. -/
def label (first : Bool) : Parser String := do
  let w ← keywordOf ["_"] <|> (if first then keywordOf ["self"] else failure) <|> name
  lacks colons
  mark ':'
  return w

/-- Inputs up to the closing bracket, whether more may follow them, and whether a comma stands last. -/
def pointerInputs (n : Nested) (first : Bool) : List Token → Parser (List (Option String × Ty) × Bool × Bool)
  | [] => failure
  | _ :: budget => do
    if ← accepts (closing .round) then return ([], false, false)
    if ← accepts (marks ['.', '.', '.']) then
      let trailing ← accepts (mark ',')
      closing .round
      return ([], true, trailing)
    let l ← optionally (label first)
    let t ← n.type true
    if ← accepts (closing .round) then return ([(l, t)], false, false)
    mark ','
    let (is, variadic, trailing) ← pointerInputs n false budget
    return ((l, t) :: is, variadic, trailing || is.isEmpty && !variadic)

/-- The name of a calling convention. -/
def abiName : Parser String
  | .literal s :: rest => if s.toList.head? = some '"' || s.toList.head? = some 'r' then some (s, rest) else none
  | _ => none

def function (n : Nested) (b : Option Binder) : Parser Ty := do
  let unchecked ← accepts (keyword "unsafe")
  let abi ← if ← accepts (keyword "extern") then pure (some (← optionally abiName)) else pure none
  keyword "fn"
  opening .round
  let (inputs, variadic, trailing) ← loop (pointerInputs n true)
  let r ← result n
  return .function b unchecked abi inputs variadic trailing r

/-! ## Types -/

/-- A mark of an invocation, which is not the first half of `!=`. -/
def bang : Parser Unit := lacks (marks ['!', '=']) *> mark '!'

def reference (n : Nested) : Parser Ty := do
  mark '&'
  let l ← optionally lifetime
  let mutable ← accepts (keyword "mut")
  return .reference l mutable (← n.type false)

def pointer (n : Nested) : Parser Ty := do
  mark '*'
  let mutable ← accepts (keyword "mut")
  if !mutable then keyword "const"
  return .pointer mutable (← n.type false)

/-- The bound that a type in parentheses is, if it is one. -/
def wrapped? : Ty → Option Bound
  | .path absolute ss => some (.trait true none false absolute ss)
  | .object false [.trait _ b relaxed absolute ss] false => some (.trait true b relaxed absolute ss)
  | .object false [b] false => some b
  | _ => none

/-- A type in parentheses, to which bounds may be added if it is one itself. -/
def afterParentheses (n : Nested) (plus : Bool) (t : Ty) : Parser Ty := do
  match wrapped? t with
  | some b => if plus && (← ahead (mark '+')) then objectFrom n b else return .parenthesized t
  | none => return .parenthesized t

/-- Round brackets: nothing, one type, or several with commas. -/
def inRound (n : Nested) (plus : Bool) : Parser Ty := do
  opening .round
  if ← accepts (closing .round) then return .tuple [] false
  if ← ahead lifetime then
    let (bs, trailing) ← bounds (bound n) true
    closing .round
    return .parenthesized (.object false bs trailing)
  if ← ahead (mark '?') then
    let b ← traitBound n true
    closing .round
    objectFrom n b
  else
    let t ← n.type true
    if ← accepts (closing .round) then afterParentheses n plus t
    else
      mark ','
      let (ts, trailing) ← listed (n.type true) (closing .round)
      return .tuple (t :: ts) (ts.isEmpty || trailing)

/-- A slice or an array. -/
def inSquare (n : Nested) : Parser Ty := do
  opening .square
  let t ← n.type true
  if ← accepts (mark ';') then
    let e ← n.anyExpr
    closing .square
    return .array t e
  else
    closing .square
    return .slice t

/-- A path, what is invoked by it, or what it is a bound of. -/
def named (n : Nested) (plus : Bool) (b : Option Binder) : Parser Ty := do
  lacks (keyword "try")
  let (absolute, ss) ← path n false
  let ss ← loop fun budget => withAllInputs n budget ss
  match simpleNames? ss, ← ahead bang with
  | some names, true =>
    bang
    let (bracket, tokens) ← group
    return .invocation absolute names bracket tokens
  | _, _ =>
    let first := Bound.trait false b false absolute ss
    if plus && (← ahead (mark '+')) then objectFrom n first
    else if b.isSome then return .object false [first] false
    else return .path absolute ss

def projected (n : Nested) : Parser Ty := do
  let (self, absolute, trait, rest) ← projection n false
  let rest ← loop fun budget => withAllInputs n budget rest
  return .projected self absolute trait rest

/-- A type, by the token it starts with. -/
def typeStep (n : Nested) (plus : Bool) : Parser Ty := fun ts =>
  match ts with
  | .opening .round :: _ => inRound n plus ts
  | .opening .square :: _ => inSquare n ts
  | .mark '&' _ :: _ => reference n ts
  | .mark '*' _ :: _ => pointer n ts
  | .mark '!' _ :: rest => some (.never, rest)
  | .mark '<' _ :: _ => projected n ts
  | .mark '\'' _ :: _ => (do let (bs, trailing) ← bounds (bound n) true; return .object false bs trailing : Parser Ty) ts
  | .word "_" false :: rest => some (.inferred, rest)
  | .word "for" false :: _ => (do let b ← binder; function n b <|> named n plus b : Parser Ty) ts
  | .word "dyn" false :: rest =>
    (do let (bs, trailing) ← bounds (bound n) plus; return .object true bs trailing : Parser Ty) rest
  | .word "impl" false :: rest =>
    (do let (bs, trailing) ← bounds (captures <|> bound n) plus; return .bounded bs trailing : Parser Ty) rest
  | .word "fn" false :: _ | .word "unsafe" false :: _ | .word "extern" false :: _ => function n none ts
  | ts => named n plus none ts

end Declgen.Source.Parser
