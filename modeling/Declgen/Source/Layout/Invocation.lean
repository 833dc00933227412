import Declgen.Source.Layout.Basic
import Declgen.Source.Parse.Basic

/-!
# Laying out invocations

The tokens of an invocation mean what the invoked name makes of them. They are set with spaces, except where
they look like calls, paths, fields and attributes.
-/

namespace Declgen.Source.Layout

/-- What came before a token. -/
inductive Before where
  | start
  /-- A name, a closing bracket of a call, and what else can be followed by one. -/
  | name
  | nameBang
  | bracket
  | dot
  | colon
  | colons
  | pound
  | poundBang
  | dollar
  /-- A name that stands for tokens, and the colon behind it. -/
  | dollarName
  | dollarColon
  /-- A bracket that may be repeated, and what separates its repetitions. -/
  | repetition
  | separator
  | other
deriving DecidableEq

/-- Keywords after which a bracket does not call. -/
def notCallable : List String :=
  ["as", "async", "await", "box", "break", "const", "continue", "crate", "dyn", "else", "enum", "extern", "fn",
    "for", "if", "impl", "in", "let", "loop", "macro", "match", "mod", "move", "mut", "pub", "ref", "return",
    "static", "struct", "trait", "type", "unsafe", "use", "where", "while", "yield"]

/-- Whether a space is wanted before a token, and what the token is to the next. A matcher tells what tokens a
rule is for. -/
def spacing (matcher : Bool) : Before → Token → Bool × Before
  | .dollar, .word _ _ => (false, if matcher then .dollarName else .other)
  | .dollarName, .mark ':' false => (false, .dollarColon)
  | .dollarColon, .word _ _ => (false, .other)
  | .repetition, .mark '+' false | .repetition, .mark '*' false | .repetition, .mark '?' false => (false, .other)
  | .repetition, .word _ _ | .repetition, .literal _ => (false, .separator)
  | .repetition, .mark _ joint => (false, if joint then .repetition else .separator)
  | .separator, .mark '+' _ | .separator, .mark '*' _ => (false, .other)
  | .dollar, .opening .round => (false, .repetition)
  | .pound, .mark '!' _ => (false, .poundBang)
  | .pound, .opening .square | .poundBang, .opening .square => (false, .other)
  | .name, .opening .curly => (true, .other)
  | .name, .opening _ => (false, .bracket)
  | .name, .mark '!' false => (false, .nameBang)
  | .nameBang, .opening .curly => (true, .other)
  | .nameBang, .opening _ => (false, .other)
  | .colon, .mark ':' _ => (false, .colons)
  | _, .opening .curly => (true, .other)
  | _, .opening _ => (true, .bracket)
  | b, .word name raw =>
    if !raw && notCallable.contains name then (true, .other) else (b != .dot && b != .colons, .name)
  | b, .literal _ => (b != .dot, .name)
  | _, .mark ',' _ | _, .mark ';' _ => (false, .other)
  | b, .mark '.' _ => if matcher then (true, .other) else (b != .name && b != .bracket, .dot)
  | b, .mark ':' true => (b != .name, .colon)
  | _, .mark '$' _ => (true, .dollar)
  | _, .mark '#' _ => (true, .pound)
  | _, _ => (true, .other)

/-- Tokens with spaces. `outer` holds what the open brackets are to what follows them; `joined` tells that no
gap may come next. -/
def spaced (matcher : Bool) : List Before → Before → Bool → List Token → List Piece
  | _, _, _, [] => []
  | outer, b, joined, t :: rest =>
    match t, outer with
    | .closing k, next :: outer =>
      (if k = .curly && b != .start then [space] else []) ++ .text k.close.toString ::
        spaced matcher outer next false rest
    | .closing k, [] => .text k.close.toString :: spaced matcher [] .other false rest
    | t, outer =>
      let (wanted, next) := spacing matcher b t
      let gap :=
        if joined then []
        else if wanted then [space]
        else match t with
          | .mark '.' _ => [soft]
          | _ => []
      gap ++
        match t with
        | .opening k =>
          let inner := match k, rest with
            | .curly, .closing _ :: _ => []
            | .curly, _ => [space]
            | _, _ => []
          .text k.open_.toString :: inner ++ spaced matcher (next :: outer) .start true rest
        | .word name raw => .text (Token.spelled name raw) :: spaced matcher outer next false rest
        | .literal s => .text s :: spaced matcher outer next false rest
        | .mark c joint => .text c.toString :: spaced matcher outer next (joint || c = '$') rest
        | .closing k => .text k.close.toString :: spaced matcher outer next false rest

/-- A path without arguments. -/
def pathText (absolute : Bool) (path : List String) : String :=
  (if absolute then "::" else "") ++ "::".intercalate path

/-- Tokens between brackets, with a gap at both ends. -/
def spacedInside (matcher : Bool) (edge : Piece) (ts : List Token) : List Piece :=
  if ts.isEmpty then []
  else block (edge :: fill 0 (spaced matcher [] .start true ts) ++ [last edge])

/-- Written as `path! name {tokens}`. -/
def invocationOf (absolute : Bool) (path : List String) (name : Option String) (b : Bracket) (ts : List Token) :
    List Piece :=
  .text (pathText absolute path ++ "!" ++
    (match name with
      | some n => " " ++ n
      | none => "") ++ (if b = .curly then " " else "") ++ b.open_.toString) ::
    spacedInside false (if b = .curly then hard else soft) ts ++ [.text b.close.toString]

/-- Written as `path!(tokens)`. -/
def invocation (absolute : Bool) (path : List String) (b : Bracket) (ts : List Token) : List Piece :=
  invocationOf absolute path none b ts

/-! ## Rules -/

/-- What tokens a rule is for, and what they become. -/
structure Rule where
  bracket : Bracket
  matcher : List Token
  result : List Token

def rule : Parser Rule := do
  let (b, matcher) ← Parser.group
  Parser.marks ['=', '>']
  let (_, result) ← Parser.group
  return ⟨b, matcher, result⟩

/-- Rules with semicolons between them. -/
def rules? (ts : List Token) : Option (List Rule) :=
  (Parser.loop (Parser.separated rule (Parser.mark ';') Parser.ended) ts).map (·.1.1)

def ruleLine (r : Rule) : List Piece :=
  .text r.bracket.open_.toString :: spacedInside true soft r.matcher ++
    .text (r.bracket.close.toString ++ " => \x7b") :: stop :: spacedInside false hard r.result ++
    [.text "\x7d;", hard]

/-- The definition of rules by a name. -/
def ruleSet (name : String) (rs : List Rule) : List Piece :=
  .text ("macro_rules! " ++ name ++ " \x7b") :: block (lines (rs.flatMap ruleLine)) ++ [.text "\x7d"]

end Declgen.Source.Layout
