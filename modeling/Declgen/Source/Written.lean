import Declgen.Source.Grammar

/-!
# Nodes as tokens

A node is written with the tokens it was read from, except that between angle brackets lifetimes come first, in
their order, and the other arguments after them in theirs.
-/

namespace Declgen.Source.Written

open Token (sign signs colons commas inBrackets ofSpelling plain)

/-! ## Lists -/

/-- Items with commas between them, and one after the last if it trails. -/
def listed (rows : List (List Token)) (trailing : Bool) : List Token :=
  commas rows ++ if trailing then [sign ','] else []

/-- Items with plus signs between them. -/
def added : List (List Token) → Bool → List Token
  | [], _ => []
  | [ts], trailing => ts ++ if trailing then [sign '+'] else []
  | ts :: rest, trailing => ts ++ sign '+' :: added rest trailing

/-- Parts of a path with two colons between them. -/
def joined (absolute : Bool) : List (List Token) → List Token
  | [] => []
  | ts :: rest => (if absolute then colons else []) ++ ts ++ joined true rest

/-- Those that are marked come first. -/
def markedFirst {α : Type} (rows : List (Bool × α)) : List α :=
  ((rows.filter (·.1)) ++ rows.filter (!·.1)).map (·.2)

/-- A row that is marked stands last, but not after the others are moved behind it. -/
def lastMoves {α : Type} (rows : List (Bool × α)) : Bool :=
  (rows.getLast?.any (·.1)) && rows.any (!·.1)

/-! ## Small pieces -/

def lifetime (name : String) : List Token := [.mark '\'' true, ofSpelling name]

def binder : Option Binder → List Token
  | none => []
  | some b => plain "for" :: sign '<' :: listed (b.lifetimes.map lifetime) b.trailing ++ [sign '>']

/-- A literal; its sign is a token of its own. -/
def literal (text : String) : List Token :=
  match text.toList with
  | '-' :: rest => [sign '-', .literal (String.ofList rest)]
  | _ => if text = "true" || text = "false" then [plain text] else [.literal text]

def names (absolute : Bool) (path : List String) : List Token :=
  joined absolute (path.map fun n => [ofSpelling n])

def invocation (absolute : Bool) (path : List String) (b : Bracket) (ts : List Token) : List Token :=
  names absolute path ++ sign '!' :: inBrackets b ts

def abi : Option (Option String) → List Token
  | none => []
  | some none => [plain "extern"]
  | some (some name) => [plain "extern", .literal name]

/-- A label of a loop or a block, with its colon. -/
def label : Option String → List Token
  | none => []
  | some l => lifetime l ++ [sign ':']

/-- What follows the mark of a borrowing. -/
def borrowing (raw mutable : Bool) : List Token :=
  if raw then [plain "raw", plain (if mutable then "mut" else "const")]
  else if mutable then [plain "mut"] else []

/-- A lifetime or a name that is captured. -/
def captive (name : String) : List Token :=
  match name.toList with
  | '\'' :: rest => lifetime (String.ofList rest)
  | _ => [ofSpelling name]

/-- Cases with bars between them. -/
def barred : List (List Token) → List Token
  | [] => []
  | [ts] => ts
  | ts :: rest => ts ++ sign '|' :: barred rest

def attribute_ (inner : Bool) (ts : List Token) : List Token :=
  sign '#' :: (if inner then [sign '!'] else []) ++ inBrackets .square ts

def braces (ts : List Token) : List Token := inBrackets .curly ts

/-- Written as `<self as trait>`. -/
def head (self : List Token) (absolute : Bool) (trait : List (List Token)) : List Token :=
  sign '<' :: self ++ (if trait.isEmpty then [] else plain "as" :: joined absolute trait) ++ [sign '>']

/-! ## Nodes -/

mutual
def type : Ty → List Token
  | .path absolute ss => joined absolute (segments ss)
  | .projected self absolute trait rest =>
    head (type self) absolute (segments trait) ++ joined true (segments rest)
  | .reference l mutable inner =>
    sign '&' :: (match l with
      | some l => lifetime l
      | none => []) ++ (if mutable then [plain "mut"] else []) ++ type inner
  | .pointer mutable inner => sign '*' :: plain (if mutable then "mut" else "const") :: type inner
  | .tuple items trailing => inBrackets .round (listed (types items) trailing)
  | .parenthesized inner => inBrackets .round (type inner)
  | .slice inner => inBrackets .square (type inner)
  | .array inner length => inBrackets .square (type inner ++ sign ';' :: expr length)
  | .function b unchecked name inputs variadic trailing result =>
    binder b ++ (if unchecked then [plain "unsafe"] else []) ++ abi name ++ plain "fn" ::
      inBrackets .round
        (listed (params inputs ++ if variadic then [signs ['.', '.', '.']] else []) trailing) ++
      (match result with
        | some t => signs ['-', '>'] ++ type t
        | none => [])
  | .object marked bs trailing => (if marked then [plain "dyn"] else []) ++ added (bounds bs) trailing
  | .bounded bs trailing => plain "impl" :: added (bounds bs) trailing
  | .invocation absolute path b ts => invocation absolute path b ts
  | .never => [sign '!']
  | .inferred => [plain "_"]

def types : List Ty → List (List Token)
  | [] => []
  | t :: rest => type t :: types rest

def params : List (Option String × Ty) → List (List Token)
  | [] => []
  | (name, t) :: rest =>
    ((match name with
      | some n => [ofSpelling n, sign ':']
      | none => []) ++ type t) :: params rest

def segment : Segment → List Token
  | .plain name => [ofSpelling name]
  | .angled name turbofish as trailing =>
    let rows := args as
    ofSpelling name :: (if turbofish then colons else []) ++
      sign '<' :: listed (markedFirst rows) (trailing || lastMoves rows) ++ [sign '>']
  | .rounded name inputs trailing result =>
    ofSpelling name :: inBrackets .round (listed (types inputs) trailing) ++
      (match result with
        | some t => signs ['-', '>'] ++ type t
        | none => [])

def segments : List Segment → List (List Token)
  | [] => []
  | s :: rest => segment s :: segments rest

/-- Each argument, with a mark on lifetimes. -/
def args : List Arg → List (Bool × List Token)
  | [] => []
  | .lifetime l :: rest => (true, lifetime l) :: args rest
  | .type t :: rest => (false, type t) :: args rest
  | .value e :: rest => (false, expr e) :: args rest
  | .typeBinding s t :: rest => (false, segment s ++ sign '=' :: type t) :: args rest
  | .valueBinding s e :: rest => (false, segment s ++ sign '=' :: expr e) :: args rest
  | .constraint s bs trailing :: rest =>
    (false, segment s ++ sign ':' :: added (bounds bs) trailing) :: args rest

def bounds : List Bound → List (List Token)
  | [] => []
  | .lifetime l :: rest => lifetime l :: bounds rest
  | .trait wrapped b relaxed absolute ss :: rest =>
    let ts := binder b ++ (if relaxed then [sign '?'] else []) ++ joined absolute (segments ss)
    (if wrapped then inBrackets .round ts else ts) :: bounds rest
  | .captured names trailing :: rest =>
    (plain "use" :: sign '<' :: listed (names.map captive) trailing ++ [sign '>']) :: bounds rest

def expr : Expr → List Token
  | .literal text => literal text
  | .path absolute ss => joined absolute (segments ss)
  | .projected self absolute trait rest =>
    head (type self) absolute (segments trait) ++ joined true (segments rest)
  | .invocation absolute path b ts => invocation absolute path b ts
  | .inferred => [plain "_"]
  | .unary c e => sign c :: expr e
  | .borrow raw mutable e => sign '&' :: borrowing raw mutable ++ expr e
  | .binary op left right => expr left ++ signs op.toList ++ expr right
  | .cast e t => expr e ++ plain "as" :: type t
  | .range first closed last =>
    (match first with
      | some e => expr e
      | none => []) ++ signs (if closed then ['.', '.', '='] else ['.', '.']) ++
      (match last with
        | some e => expr e
        | none => [])
  | .parenthesized e => inBrackets .round (expr e)
  | .tuple items trailing => inBrackets .round (listed (exprs items) trailing)
  | .list items trailing => inBrackets .square (listed (exprs items) trailing)
  | .repeated e count => inBrackets .square (expr e ++ sign ';' :: expr count)
  | .call f as trailing => expr f ++ inBrackets .round (listed (exprs as) trailing)
  | .method receiver s as trailing =>
    expr receiver ++ sign '.' :: segment s ++ inBrackets .round (listed (exprs as) trailing)
  | .member e name =>
    expr e ++ [sign '.', if name.toList.head?.any Char.isDigit then .literal name else ofSpelling name]
  | .index e i => expr e ++ inBrackets .square (expr i)
  | .attempt e => expr e ++ [sign '?']
  | .construct p fields => expr p ++ braces fields
  | .jump w l value =>
    plain w :: (match l with
      | some l => lifetime l
      | none => []) ++
      (match value with
        | some e => expr e
        | none => [])
  | .test p e => plain "let" :: pattern p ++ sign '=' :: expr e
  | .block l ws body => label l ++ ws.map plain ++ braces body
  | .loop l body => label l ++ plain "loop" :: braces body
  | .whileLoop l condition body => label l ++ plain "while" :: expr condition ++ braces body
  | .forLoop l p e body => label l ++ plain "for" :: pattern p ++ plain "in" :: expr e ++ braces body
  | .choice condition body otherwise =>
    plain "if" :: expr condition ++ braces body ++
      (match otherwise with
        | some e => plain "else" :: expr e
        | none => [])
  | .select e arms => plain "match" :: expr e ++ braces arms
  | .closure b ws inputs trailing result body =>
    binder b ++ ws.map plain ++ sign '|' :: listed (patterns inputs) trailing ++ sign '|' ::
      (match result with
        | some t => signs ['-', '>'] ++ type t
        | none => []) ++ expr body
  | .attributed as e => attributes as ++ expr e

def exprs : List Expr → List (List Token)
  | [] => []
  | e :: rest => expr e :: exprs rest

def pattern : Pattern → List Token
  | .wild => [plain "_"]
  | .rest => signs ['.', '.']
  | .value e => expr e
  | .name byReference mutable n sub =>
    (if byReference then [plain "ref"] else []) ++ (if mutable then [plain "mut"] else []) ++ ofSpelling n ::
      (match sub with
        | some p => sign '@' :: pattern p
        | none => [])
  | .choice leading cases => (if leading then [sign '|'] else []) ++ barred (patterns cases)
  | .parenthesized p => inBrackets .round (pattern p)
  | .reference mutable p => sign '&' :: (if mutable then [plain "mut"] else []) ++ pattern p
  | .slice items trailing => inBrackets .square (listed (patterns items) trailing)
  | .tuple items trailing => inBrackets .round (listed (patterns items) trailing)
  | .construct p fields => expr p ++ braces fields
  | .variant p items trailing => expr p ++ inBrackets .round (listed (patterns items) trailing)
  | .typed p t => pattern p ++ sign ':' :: type t

def patterns : List Pattern → List (List Token)
  | [] => []
  | p :: rest => pattern p :: patterns rest

def attributes : List Attribute → List Token
  | [] => []
  | .plain inner absolute p :: rest => attribute_ inner (names absolute p) ++ attributes rest
  | .list inner absolute p b ts :: rest =>
    attribute_ inner (names absolute p ++ inBrackets b ts) ++ attributes rest
  | .value inner absolute p e :: rest =>
    attribute_ inner (names absolute p ++ sign '=' :: expr e) ++ attributes rest
end

/-- The tokens of a path. -/
def path (absolute : Bool) (ss : List Segment) : List Token := joined absolute (segments ss)

end Declgen.Source.Written
