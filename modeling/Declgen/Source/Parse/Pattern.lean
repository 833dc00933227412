import Declgen.Source.Parse.Type

/-!
# Paths and patterns from tokens

A path of an expression may go on as an invocation. In a pattern it may be the start of a range, or fields may
follow it.
-/

namespace Declgen.Source.Parser

/-! ## Paths of expressions -/

/-- A path in an expression: whether it starts with a type in angle brackets, or with a name. -/
def valuePath (n : Nested) : Parser Expr := do
  if ← ahead angle then
    let (self, absolute, trait, rest) ← projection n true
    return .projected self absolute trait rest
  else
    let (absolute, ss) ← path n true
    return .path absolute ss

/-- What is invoked by a path, if this is an invocation. -/
def invoked (e : Expr) : Parser (Option Expr) := do
  match e with
  | .path absolute ss =>
    match simpleNames? ss, ← ahead bang with
    | some names, true =>
      bang
      let (b, ts) ← group
      return some (.invocation absolute names b ts)
    | _, _ => return none
  | _ => return none

/-! ## Ranges -/

/-- The dots of a range; a closed one holds its last element. -/
def dots : Parser Bool :=
  (do marks ['.', '.', '=']; return true) <|> (do lacks (marks ['.', '.', '.']); marks ['.', '.']; return false)

/-- In a pattern three dots are those of a closed range. -/
def patternDots : Parser Bool :=
  (do marks ['.', '.', '.']; return true) <|> dots

/-- Nothing more can belong to a range. -/
def rangeEnds : Parser Bool :=
  ahead (finish <|> mark '|' <|> mark '=' <|> (lacks colons *> mark ':') <|> mark ',' <|> mark ';' <|> keyword "if")

/-- A bound of a range: a literal, a path or a block. -/
def rangeBound (n : Nested) : Parser (Option Expr) := do
  if ← rangeEnds then return none
  match ← optionally literal with
  | some text => return some (.literal text)
  | none =>
    if ← accepts (keyword "const") then return some (← block n ["const"])
    return some (← valuePath n)

/-- A range after its first bound, if it has one. A closed range has a last bound. -/
def rangeFrom (n : Nested) (first : Option Expr) : Parser Pattern := do
  let closed ← patternDots
  let last ← rangeBound n
  if closed && last.isNone then failure
  return .value (.range first closed last)

/-! ## Patterns -/

/-- Several cases with bars between them, and perhaps one before the first. -/
def furtherCases (one : Parser Pattern) : List Token → Parser (List Pattern)
  | [] => pure []
  | _ :: budget => do
    if ← accepts (lacks (marks ['|', '|'] <|> marks ['|', '=']) *> mark '|') then
      let p ← one
      return p :: (← furtherCases one budget)
    else return []

def cases (one : Parser Pattern) : Parser Pattern := do
  let leading ← accepts (mark '|')
  let p ← one
  let ps ← loop (furtherCases one)
  return if leading || !ps.isEmpty then .choice leading (p :: ps) else p

/-- A path starts here and goes on as such, or is one by its first word. -/
def pathAhead : Parser Bool :=
  ahead
    ((name *> (colons <|> mark '!' <|> opening .curly <|> opening .round <|> marks ['.', '.'])) <|>
      (keyword "self" *> colons) <|> colons <|> mark '<' <|>
      keywordOf ["Self", "super", "crate"] *> pure ())

/-- What starts with a path. -/
def pathPattern (n : Nested) : Parser Pattern := do
  let p ← valuePath n
  match ← invoked p with
  | some e => return .value e
  | none =>
    if ← ahead (opening .curly) then return .construct p (← code n .patterns)
    if ← accepts (opening .round) then
      let (items, trailing) ← listed (cases n.pattern) (closing .round)
      return .variant p items trailing
    if ← ahead (marks ['.', '.']) then rangeFrom n (some p)
    else return .value p

/-- A name for what is met. -/
def namePattern (n : Nested) : Parser Pattern := do
  let byReference ← accepts (keyword "ref")
  let mutable ← accepts (keyword "mut")
  let w ← keywordOf ["self"] <|> name
  if ← accepts (mark '@') then return .name byReference mutable w (some (← n.pattern))
  return .name byReference mutable w none

/-- A literal or a block, or a range that starts with one. -/
def valuePattern (n : Nested) : Parser Pattern := do
  match ← rangeBound n with
  | some e => if ← ahead (marks ['.', '.']) then rangeFrom n (some e) else return .value e
  | none => failure

/-- Dots: a range without a first bound, or all that is left. -/
def restPattern (n : Nested) : Parser Pattern := do
  let closed ← dots
  match ← rangeBound n with
  | some e => return .value (.range none closed (some e))
  | none => if closed then failure else return .rest

/-- Round brackets: one pattern, or several with commas. All that is left needs no comma. -/
def tuplePattern (n : Nested) : Parser Pattern := do
  opening .round
  match ← listed (cases n.pattern) (closing .round) with
  | ([.rest], trailing) => return .tuple [.rest] trailing
  | ([p], false) => return .parenthesized p
  | (items, trailing) => return .tuple items trailing

/-- A range in square brackets has both bounds. -/
def isClosedIn : Pattern → Bool
  | .value (.range first _ last) => first.isSome && last.isSome
  | _ => true

def slicePattern (n : Nested) : Parser Pattern := do
  opening .square
  let (items, trailing) ← listed (cases n.pattern) (closing .square)
  require (items.all isClosedIn)
  return .slice items trailing

/-- A pattern that is not one of several. -/
def patternStep (n : Nested) : Parser Pattern := do
  if ← pathAhead then pathPattern n
  else if ← accepts (keyword "_") then return .wild
  else if ← ahead (mark '-' <|> literal *> pure () <|> keyword "const") then valuePattern n
  else if ← accepts (mark '&') then
    let mutable ← accepts (keyword "mut")
    return .reference mutable (← n.pattern)
  else if ← ahead (opening .round) then tuplePattern n
  else if ← ahead (opening .square) then slicePattern n
  else if ← ahead (marks ['.', '.']) then restPattern n
  else namePattern n

end Declgen.Source.Parser
