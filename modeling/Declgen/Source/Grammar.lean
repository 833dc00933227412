import Declgen.Source.Token

/-!
# Types, expressions and patterns of source text

A node keeps all that was written but blanks: where a list may end in a separator, `trailing` tells that it does.
What stands in braces is kept as tokens. It has been read when the node was read, and is read again where it is
laid out, so that no type of nodes needs all the others.
-/

namespace Declgen.Source

/-- Written as `for<'a, 'b>`, which brings lifetimes into scope. -/
structure Binder where
  lifetimes : List String
  trailing : Bool
deriving DecidableEq

mutual
inductive Ty where
  /-- An absolute path starts at a crate. -/
  | path (absolute : Bool) (segments : List Segment)
  /-- Written as `<self as trait>::rest`, or `<self>::rest` if there is no trait. -/
  | projected (self : Ty) (absolute : Bool) (trait rest : List Segment)
  | reference (lifetime : Option String) (mutable : Bool) (inner : Ty)
  | pointer (mutable : Bool) (inner : Ty)
  | tuple (items : List Ty) (trailing : Bool)
  | parenthesized (inner : Ty)
  | slice (inner : Ty)
  | array (inner : Ty) (length : Expr)
  /-- A pointer to a function. Its parameters may be named, and more may follow them. -/
  | function (binder : Option Binder) (unchecked : Bool) (abi : Option (Option String))
      (inputs : List (Option String × Ty)) (variadic trailing : Bool) (result : Option Ty)
  /-- A value of which only bounds are known; `marked` tells that this is said in front. -/
  | object (marked : Bool) (bounds : List Bound) (trailing : Bool)
  /-- One type that is not named but meets bounds. -/
  | bounded (bounds : List Bound) (trailing : Bool)
  /-- Written as `path!(tokens)`. -/
  | invocation (absolute : Bool) (path : List String) (bracket : Bracket) (tokens : Enclosed)
  /-- The type without values. -/
  | never
  /-- A type that is left to be inferred. -/
  | inferred

/-- A part of a path. -/
inductive Segment where
  | plain (name : String)
  /-- Written as `name<args>`, or `name::<args>` with a turbofish. -/
  | angled (name : String) (turbofish : Bool) (args : List Arg) (trailing : Bool)
  /-- Written as `name(inputs) -> result`. -/
  | rounded (name : String) (inputs : List Ty) (trailing : Bool) (result : Option Ty)

/-- What stands between the angle brackets of a segment. -/
inductive Arg where
  | lifetime (name : String)
  | type (t : Ty)
  | value (e : Expr)
  /-- Written as `name = t`. -/
  | typeBinding (name : Segment) (t : Ty)
  /-- Written as `name = e`. -/
  | valueBinding (name : Segment) (e : Expr)
  /-- Written as `name: bounds`. -/
  | constraint (name : Segment) (bounds : List Bound) (trailing : Bool)

inductive Bound where
  | lifetime (name : String)
  /-- A trait, in parentheses if `wrapped`. A relaxed bound has a question mark. -/
  | trait (wrapped : Bool) (binder : Option Binder) (relaxed absolute : Bool) (segments : List Segment)
  /-- Written as `use<names>`: all that the type may depend on. -/
  | captured (names : List String) (trailing : Bool)

inductive Expr where
  /-- A literal, with its sign if it has one of its own. -/
  | literal (text : String)
  | path (absolute : Bool) (segments : List Segment)
  | projected (self : Ty) (absolute : Bool) (trait rest : List Segment)
  | invocation (absolute : Bool) (path : List String) (bracket : Bracket) (tokens : Enclosed)
  | inferred
  | unary (operator : Char) (e : Expr)
  /-- Written as `&e`; a raw one is a pointer. -/
  | borrow (raw mutable : Bool) (e : Expr)
  | binary (operator : String) (left right : Expr)
  | cast (e : Expr) (t : Ty)
  | range (first : Option Expr) (closed : Bool) (last : Option Expr)
  | parenthesized (e : Expr)
  | tuple (items : List Expr) (trailing : Bool)
  | list (items : List Expr) (trailing : Bool)
  /-- Written as `[e; count]`. -/
  | repeated (e count : Expr)
  /-- A path with fields in braces. -/
  | construct (path : Expr) (fields : Enclosed)
  | call (function : Expr) (args : List Expr) (trailing : Bool)
  | method (receiver : Expr) (name : Segment) (args : List Expr) (trailing : Bool)
  | member (e : Expr) (name : String)
  | index (e i : Expr)
  /-- Written as `e?`. -/
  | attempt (e : Expr)
  /-- A keyword that leads out of a loop or a function, perhaps with a value. -/
  | jump (keyword : String) (label : Option String) (value : Option Expr)
  /-- Written as `let pattern = e`, as a condition. -/
  | test (pattern : Pattern) (e : Expr)
  /-- Statements in braces, perhaps with keywords in front. -/
  | block (label : Option String) (keywords : List String) (body : Enclosed)
  | loop (label : Option String) (body : Enclosed)
  | whileLoop (label : Option String) (condition : Expr) (body : Enclosed)
  | forLoop (label : Option String) (pattern : Pattern) (e : Expr) (body : Enclosed)
  | choice (condition : Expr) (body : Enclosed) (otherwise : Option Expr)
  /-- A choice between arms by patterns. -/
  | select (e : Expr) (arms : Enclosed)
  | closure (binder : Option Binder) (keywords : List String) (inputs : List Pattern) (trailing : Bool)
      (result : Option Ty) (body : Expr)
  | attributed (attributes : List Attribute) (e : Expr)

inductive Pattern where
  /-- Anything. -/
  | wild
  /-- All that is left. -/
  | rest
  /-- A literal, a path, a range or a block. -/
  | value (e : Expr)
  /-- A name for what is met, which may have a pattern of its own. -/
  | name (byReference mutable : Bool) (name : String) (sub : Option Pattern)
  /-- One of several, where a bar may stand before the first, too. -/
  | choice (leading : Bool) (cases : List Pattern)
  | parenthesized (p : Pattern)
  | reference (mutable : Bool) (p : Pattern)
  | slice (items : List Pattern) (trailing : Bool)
  | tuple (items : List Pattern) (trailing : Bool)
  /-- A path with fields in braces. -/
  | construct (path : Expr) (fields : Enclosed)
  /-- A path with positions in round brackets. -/
  | variant (path : Expr) (items : List Pattern) (trailing : Bool)
  | typed (p : Pattern) (t : Ty)

/-- Written as `#[path tail]`; an inner attribute belongs to what it stands in. -/
inductive Attribute where
  | plain (inner absolute : Bool) (path : List String)
  | list (inner absolute : Bool) (path : List String) (b : Bracket) (tokens : Enclosed)
  /-- Written as `path = e`. -/
  | value (inner absolute : Bool) (path : List String) (e : Expr)
end

/-- What a segment is called, without its arguments. -/
def Segment.name : Segment → String
  | .plain name => name
  | .angled name _ _ _ => name
  | .rounded name _ _ _ => name

/-- Nothing stands behind the name. Empty angle brackets are as good as nothing. -/
def Segment.isBare : Segment → Bool
  | .plain _ => true
  | .angled _ _ args _ => args.isEmpty
  | .rounded _ _ _ _ => false

def Bound.isTrait : Bound → Bool
  | .trait _ _ _ _ _ => true
  | _ => false

/-- The names of a path without any arguments, angle brackets included. -/
def simpleNames? : List Segment → Option (List String)
  | [] => some []
  | .plain name :: rest => (simpleNames? rest).map (name :: ·)
  | _ :: _ => none

/-! ## Shapes of expressions -/

namespace Expr

def isRange : Expr → Bool
  | .range _ _ _ => true
  | _ => false

def comparisons : List String := ["==", "<", ">", "<=", "!=", ">="]

def isComparison : Expr → Bool
  | .binary op _ _ => comparisons.contains op
  | _ => false

/-- Operators that give a value to what stands before them. -/
def assignments : List String := ["=", "+=", "-=", "*=", "/=", "%=", "^=", "&=", "|=", "<<=", ">>="]

/-- Ends in braces, so that nothing needs to follow it where a statement or an arm ends. -/
def endsItself : Expr → Bool
  | .choice _ _ _ | .select _ _ | .whileLoop _ _ _ | .loop _ _ | .forLoop _ _ _ _ => true
  | .block _ keywords _ => !keywords.contains "async"
  | .attributed _ e => e.endsItself
  | _ => false

/-- Is a statement without a semicolon. -/
def standsAlone : Expr → Bool
  | .invocation _ _ b _ => b = .curly
  | e => e.endsItself

/-- Is read as a whole where a statement starts, because nothing in it could end the statement too early. -/
def fitsStatement : Expr → Bool
  | .binary op left _ => (op = "=" || !left.standsAlone) && left.fitsStatement
  | .cast e _ | .call e _ _ | .index e _ | .range (some e) _ _ => !e.standsAlone && e.fitsStatement
  | .member e _ | .method e _ _ _ | .attempt e => e.fitsStatement
  | _ => true

/-- Gives no value of its own, so that a semicolon follows it in braces. -/
def isAction : Expr → Bool
  | .binary op _ _ => assignments.contains op
  | .jump _ _ _ => true
  | _ => false

/-- A statement that never needs a semicolon. -/
def needsNone : Expr → Bool
  | .forLoop _ _ _ _ | .whileLoop _ _ _ => true
  | .choice _ _ none => true
  | .choice _ _ (some e) => e.needsNone
  | .attributed _ e => e.needsNone
  | _ => false

/-- Starts and ends with brackets or with a keyword, so that it needs no group of its own. -/
def isBracketed : Expr → Bool
  | .list _ _ | .block _ _ _ | .closure _ _ _ _ _ _ | .construct _ _ | .tuple _ _ => true
  | _ => false

/-- As a condition it may take several lines. -/
def mayWrap : Expr → Bool
  | .binary _ _ _ | .cast _ _ | .member _ _ | .index _ _ | .method _ _ _ _ => true
  | .jump _ _ (some e) | .call e _ _ | .parenthesized e | .test _ e | .range _ _ (some e) | .borrow _ _ e
  | .attempt e | .unary _ e | .attributed _ e => e.mayWrap
  | _ => false

/-- A name that is no longer than lines are moved to the right. -/
def isShortName : Expr → Bool
  | .path false [.plain name] => name.utf8ByteSize ≤ 4
  | _ => false

end Expr

/-- A pattern that is as simple as can be. -/
def Pattern.isSimple : Pattern → Bool
  | .wild => true
  | .value (.literal _) => true
  | _ => false

end Declgen.Source
