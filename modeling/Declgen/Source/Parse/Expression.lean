import Declgen.Source.Parse.Attribute
import Declgen.Source.Parse.Pattern

/-!
# Expressions from tokens

An operand is read with what stands before and behind it, and then the operators follow by how tightly they
bind. In a condition braces after a path start what depends on it, and not the fields of a value.
-/

namespace Declgen.Source.Parser

/-! ## How tightly operators bind -/

def assignmentTier : Nat := 1
def rangeTier : Nat := 2
def comparisonTier : Nat := 5

/-- Operators that stand between operands. Of two that could be read the longer comes first. -/
def operators : List String :=
  ["+=", "-=", "*=", "/=", "%=", "^=", "&=", "|=", "<<=", ">>=", "&&", "||", "<<", ">>", "==", "=>", "<=", "!=",
    ">=", "+", "-", "*", "/", "%", "^", "&", "|", "<", ">", "="]

/-- Operators by how tightly they bind, from the loosest on. -/
def tier? (op : String) : Option Nat :=
  if Expr.assignments.contains op then some assignmentTier
  else if op = "||" then some 3
  else if op = "&&" then some 4
  else if Expr.comparisons.contains op then some comparisonTier
  else if op = "|" then some 6
  else if op = "^" then some 7
  else if op = "&" then some 8
  else if op = "<<" || op = ">>" then some 9
  else if op = "+" || op = "-" then some 10
  else if ["*", "/", "%"].contains op then some 11
  else none

/-- The operator at the front with its tier, if it binds tightly enough. -/
def operatorFrom (floor : Nat) : Parser (String × Nat) := fun ts => do
  let op ← operators.find? fun op => (marks op.toList ts).isSome
  let (_, rest) ← marks op.toList ts
  let tier ← tier? op
  if floor ≤ tier then some ((op, tier), rest) else none

/-! ## Brackets -/

/-- Round brackets: nothing, one expression, or several with commas. -/
def tuple (n : Nested) : Parser Expr := do
  opening .round
  match ← listed n.anyExpr (closing .round) with
  | ([e], false) => return .parenthesized e
  | (items, trailing) => return .tuple items trailing

/-- A list by its items, or by one item and how often it stands there. -/
def list (n : Nested) : Parser Expr := do
  opening .square
  if ← accepts (closing .square) then return .list [] false
  let e ← n.anyExpr
  if ← accepts (closing .square) then return .list [e] false
  if ← accepts (mark ';') then
    let count ← n.anyExpr
    closing .square
    return .repeated e count
  mark ','
  let (es, trailing) ← listed n.anyExpr (closing .square)
  return .list (e :: es) (es.isEmpty || trailing)

/-- The arguments of a call. -/
def arguments (n : Nested) : Parser (List Expr × Bool) := do
  opening .round
  listed n.anyExpr (closing .round)

/-! ## Operands that start with a path -/

/-- A path, what is invoked by it, or a value with fields. -/
def value (n : Nested) (fields : Bool) : Parser Expr := do
  let p ← valuePath n
  match ← invoked p with
  | some e => return e
  | none => if fields && (← ahead (opening .curly)) then return .construct p (← code n .values) else return p

/-! ## Operands that start with a keyword -/

/-- An expression may start here. -/
def valueAhead : Parser Bool :=
  ahead
    (word *> pure () <|> literal *> pure () <|> opening .round <|> opening .square <|> opening .curly <|>
      lacks (marks ['!', '=']) *> mark '!' <|>
      lacks (marks ['-', '='] <|> marks ['-', '>']) *> mark '-' <|>
      lacks (marks ['*', '=']) *> mark '*' <|>
      lacks (marks ['|', '=']) *> mark '|' <|>
      lacks (marks ['&', '=']) *> mark '&' <|>
      marks ['.', '.'] <|> angle <|> colons <|> lifetime *> pure () <|> mark '#')

/-- A jump with its value, if there is one. -/
def jump (n : Nested) (fields : Bool) (w : String) : Parser Expr := do
  if w = "continue" then return .jump w (← optionally lifetime) none
  if w = "break" then
    let l ← optionally lifetime
    if l.isSome then lacks (mark ':')
    if (← valueAhead) && (fields || !(← ahead (opening .curly))) then
      return .jump w l (some (← n.expr fields 0))
    return .jump w l none
  if ← valueAhead then return .jump w none (some (← n.expr fields 0))
  return .jump w none none

/-- A condition with what depends on it, and what is done otherwise. -/
def choice (n : Nested) : List Token → Parser Expr
  | [] => failure
  | _ :: budget => do
    keyword "if"
    let condition ← n.expr false 0
    let body ← code n .statements
    if ← accepts (keyword "else") then
      if ← ahead (keyword "if") then return .choice condition body (some (← choice n budget))
      else return .choice condition body (some (← block n []))
    else return .choice condition body none

def select (n : Nested) : Parser Expr := do
  keyword "match"
  let e ← n.expr false 0
  return .select e (← code n .arms)

/-- A loop with its label, which is read already. -/
def loopWith (n : Nested) (l : Option String) : Parser Expr := do
  match ← keywordOf ["loop", "while", "for"] with
  | "loop" => return .loop l (← code n .statements)
  | "while" =>
    let condition ← n.expr false 0
    return .whileLoop l condition (← code n .statements)
  | _ =>
    let p ← cases n.pattern
    keyword "in"
    let e ← n.expr false 0
    return .forLoop l p e (← code n .statements)

/-- A loop or a block with a label. -/
def labelled (n : Nested) : Parser Expr := do
  let l ← lifetime
  mark ':'
  if ← ahead (opening .curly) then return .block (some l) [] (← code n .statements)
  loopWith n (some l)

/-- A condition that a value meets a pattern. -/
def test (n : Nested) (fields : Bool) : Parser Expr := do
  keyword "let"
  let p ← cases n.pattern
  mark '='
  return .test p (← n.expr fields comparisonTier)

/-! ## Closures -/

/-- A keyword, as a list of none or one. -/
def perhaps (w : String) : Parser (List String) := do
  return if ← accepts (keyword w) then [w] else []

def closureInput (n : Nested) : Parser Pattern := do
  let p ← n.pattern
  if ← accepts (mark ':') then return .typed p (← n.type true)
  return p

def closure (n : Nested) (fields : Bool) : Parser Expr := do
  let b ← optionally binder
  let keywords := (← perhaps "const") ++ (← perhaps "static") ++ (← perhaps "async") ++ (← perhaps "move")
  mark '|'
  let (inputs, trailing) ← listed (closureInput n) (mark '|')
  if ← accepts (marks ['-', '>']) then
    let t ← n.type true
    return .closure b keywords inputs trailing (some t) (← block n [])
  return .closure b keywords inputs trailing none (← n.expr fields 0)

/-! ## Operands -/

/-- What starts with a word. -/
def worded (n : Nested) (fields : Bool) (w : String) : Parser Expr := do
  if ["break", "continue", "return", "yield"].contains w then
    keyword w
    jump n fields w
  else if w = "if" then loop (choice n)
  else if w = "match" then select n
  else if w = "let" then test n fields
  else if w = "loop" || w = "while" then loopWith n none
  else if w = "for" then
    if ← ahead (keyword w *> mark '<' *> (lifetime *> pure () <|> mark '>')) then closure n fields
    else loopWith n none
  else if w = "unsafe" then
    keyword w
    block n [w]
  else if w = "const" then
    if ← ahead (keyword w *> opening .curly) then
      keyword w
      block n [w]
    else closure n fields
  else if w = "async" then
    if ← ahead (keyword w *> (opening .curly <|> keyword "move" *> opening .curly)) then
      keyword w
      let move ← perhaps "move"
      block n (w :: move)
    else closure n fields
  else if w = "try" then
    if ← ahead (keyword w *> opening .curly) then
      keyword w
      block n [w]
    else
      sees (keyword w *> (mark '!' <|> colons))
      value n fields
  else if w = "move" || w = "static" then closure n fields
  else if w = "_" then
    keyword w
    return .inferred
  else value n fields

/-- An operand without what stands before and behind it. -/
def atom (n : Nested) (fields : Bool) : Parser Expr := fun ts =>
  match ts with
  | .opening .round :: _ => tuple n ts
  | .opening .square :: _ => list n ts
  | .opening .curly :: _ => block n [] ts
  | .mark '|' _ :: _ => closure n fields ts
  | .mark '\'' _ :: _ => labelled n ts
  | .word w false :: _ => ((do return .literal (← unsigned)) <|> worded n fields w : Parser Expr) ts
  | ts => ((do return .literal (← unsigned)) <|> value n fields : Parser Expr) ts

/-! ## What follows an operand -/

/-- The number of a field. -/
def position : Parser String
  | .literal s :: rest => if s.toList.all fun c => c.isDigit || c = '.' then some (s, rest) else none
  | _ => none

/-- A field or a method, after its dot. -/
def memberOf (n : Nested) (e : Expr) : Parser Expr := do
  match ← optionally (position <|> keywordOf ["await"]) with
  | some p => return .member e p
  | none =>
    let w ← name
    if ← ahead turbofish then
      colons
      mark '<'
      let (args, commaInside) ← listed (argument n) (mark '>')
      let (inputs, trailing) ← arguments n
      return .method e (.angled w true args commaInside) inputs trailing
    if ← ahead (opening .round) then
      let (inputs, trailing) ← arguments n
      return .method e (.plain w) inputs trailing
    return .member e w

/-- Calls, indices, fields and methods, one after the other. -/
def trailers (n : Nested) : List Token → Expr → Parser Expr
  | [], e => pure e
  | _ :: budget, e => do
    if ← ahead (opening .round) then
      let (args, trailing) ← arguments n
      trailers n budget (.call e args trailing)
    else if ← accepts (opening .square) then
      let i ← n.anyExpr
      closing .square
      trailers n budget (.index e i)
    else if ← accepts (mark '?') then trailers n budget (.attempt e)
    else if ← accepts (lacks (marks ['.', '.']) *> mark '.') then
      let e ← memberOf n e
      trailers n budget e
    else pure e

/-! ## What stands before an operand -/

def unaryOperator : Parser Char
  | .mark c _ :: rest => if c = '-' || c = '!' || c = '*' then some (c, rest) else none
  | _ => none

/-- The kind of a borrowing, after its mark: whether it is raw, and whether it may change what is borrowed. -/
def borrowing : Parser (Bool × Bool) := do
  match ← optionally (keyword "raw" *> keywordOf ["mut", "const"]) with
  | some w => return (true, w = "mut")
  | none => return (false, ← accepts (keyword "mut"))

/-- Nothing more belongs to a range that is open at its end. -/
def rangeOpen (fields : Bool) : Parser Bool := do
  if ← ahead (finish <|> mark ',' <|> mark ';' <|> mark '?' <|> mark '=' <|> mark '+' <|> mark '/' <|> mark '%' <|>
      mark '^' <|> mark '>' <|> keyword "as") then return true
  if ← ahead (marks ['<', '='] <|> marks ['!', '='] <|> marks ['-', '='] <|> marks ['*', '='] <|>
      marks ['&', '='] <|> marks ['|', '='] <|> marks ['<', '<', '=']) then return true
  if ← ahead (lacks (marks ['.', '.']) *> mark '.') then return true
  if fields then return false else ahead (opening .curly)

/-- A range after its first element, if it has one. -/
def rangeAfter (n : Nested) (fields : Bool) (first : Option Expr) : Parser Expr := do
  let closed ← dots
  if !closed && (← rangeOpen fields) then return .range first closed none
  return .range first closed (some (← n.expr fields (rangeTier + 1)))

/-- An operand with what stands before and behind it. -/
def operand (n : Nested) (fields : Bool) : List Token → Parser Expr
  | [] => failure
  | _ :: budget => do
    if ← ahead (mark '#') then
      let as ← loop (attributes n)
      return .attributed as (← operand n fields budget)
    if ← accepts (mark '&') then
      let (raw, mutable) ← borrowing
      return .borrow raw mutable (← operand n fields budget)
    match ← optionally unaryOperator with
    | some c => return .unary c (← operand n fields budget)
    | none =>
      if ← ahead (marks ['.', '.']) then rangeAfter n fields none
      else
        let e ← atom n fields
        loop fun budget => trailers n budget e

/-! ## Operators -/

/-- Operators that bind at least as tightly as `floor`, with their right operands. A range is no operand, and
comparisons do not follow each other. -/
def further (n : Nested) (fields : Bool) (floor : Nat) : List Token → Expr → Parser Expr
  | [], e => pure e
  | _ :: budget, e => do
    if e.isRange then return e
    match ← optionally (operatorFrom floor) with
    | some (op, tier) =>
      if tier = comparisonTier && e.isComparison then failure
      let right ← n.expr fields (if tier = assignmentTier then tier else tier + 1)
      further n fields floor budget (.binary op e right)
    | none =>
      if floor ≤ rangeTier then
        if ← ahead (marks ['.', '.']) then return ← rangeAfter n fields (some e)
      if ← accepts (keyword "as") then
        let t ← n.type false
        further n fields floor budget (.cast e t)
      else return e

def exprStep (n : Nested) (fields : Bool) (floor : Nat) : Parser Expr := do
  let e ← loop (operand n fields)
  loop fun budget => further n fields floor budget e

end Declgen.Source.Parser
