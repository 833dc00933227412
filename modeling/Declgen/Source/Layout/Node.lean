import Declgen.Source.Layout.Attribute
import Declgen.Source.Layout.Expression
import Declgen.Source.Layout.Type
import Declgen.Source.Parse.Type

/-!
# Laying out types, expressions and patterns

What stands in braces is laid out by what is given.
-/

namespace Declgen.Source.Layout

/-- How what stands in braces is laid out. -/
structure Inside where
  /-- Statements that may share a line with their braces. -/
  small : List Token → List Piece
  /-- The lines between braces, or the rows of fields. -/
  lines : Parser.Code → List Token → List Piece

variable (inside : Inside)

mutual
def type : Ty → List Piece
  | .path absolute ss => joined absolute (segments false ss)
  | .projected self absolute trait rest =>
    head (type self) absolute (segments false trait) ++ joined true (segments false rest)
  | .reference l mutable inner =>
    .text "&" :: (match l with
      | some l => [lifetime l, .text " "]
      | none => []) ++ (if mutable then [.text "mut "] else []) ++ type inner
  | .pointer mutable inner => .text (if mutable then "*mut " else "*const ") :: type inner
  | .tuple items _ => tuple (types items)
  | .parenthesized inner => .text "(" :: type inner ++ [.text ")"]
  | .slice inner => .text "[" :: type inner ++ [.text "]"]
  | .array inner length => .text "[" :: type inner ++ .text "; " :: (expr length).alone false ++ [.text "]"]
  | .function b unchecked name inputs variadic _ r =>
    binder b ++ (if unchecked then [.text "unsafe "] else []) ++ abi name ++ .text "fn" ::
      pointerInputRows variadic (pointerInputs inputs) ++
      (match r with
        | some t => .text " -> " :: type t
        | none => [])
  | .object _ bs _ => .text "dyn " :: added (bounds bs)
  | .bounded bs _ => .text "impl " :: added (bounds bs)
  | .invocation absolute path b ts => invocation absolute path b ts
  | .never => [.text "!"]
  | .inferred => [.text "_"]

def types : List Ty → List (List Piece)
  | [] => []
  | t :: rest => type t :: types rest

def pointerInputs : List (Option String × Ty) → List (List Piece)
  | [] => []
  | (name, t) :: rest =>
    ((match name with
      | some n => [.text n, .text ": "]
      | none => []) ++ type t) :: pointerInputs rest

/-- Expressions keep the turbofish. -/
def segment (inExpr : Bool) : Segment → List Piece
  | .plain name => [.text name]
  | .angled name _ as _ => .text name :: angled inExpr (args as)
  | .rounded name inputs _ r =>
    .text name :: block (.text "(" :: inputRows (types inputs) ++ .text ")" ::
      (match r with
        | some t => .text " -> " :: type t
        | none => []))

def segments (inExpr : Bool) : List Segment → List (List Piece)
  | [] => []
  | s :: rest => segment inExpr s :: segments inExpr rest

/-- Each argument, with a mark on lifetimes. -/
def args : List Arg → List (Bool × List Piece)
  | [] => []
  | .lifetime l :: rest => (true, [lifetime l]) :: args rest
  | .type t :: rest => (false, type t) :: args rest
  | .value e :: rest => (false, (expr e).alone false) :: args rest
  | .typeBinding s t :: rest => (false, segment false s ++ .text " = " :: type t) :: args rest
  | .valueBinding s e :: rest => (false, segment false s ++ .text " = " :: (expr e).alone false) :: args rest
  | .constraint s bs _ :: rest => (false, segment false s ++ constraint (bounds bs)) :: args rest

def bounds : List Bound → List (List Piece)
  | [] => []
  | .lifetime l :: rest => [lifetime l] :: bounds rest
  | .trait wrapped b relaxed absolute ss :: rest =>
    ((if wrapped then [.text "("] else []) ++ binder b ++ (if relaxed then [.text "?"] else []) ++
      joined absolute (segments false ss) ++ (if wrapped then [.text ")"] else [])) :: bounds rest
  | .captured names _ :: rest => [.text ("use<" ++ ", ".intercalate names ++ ">")] :: bounds rest

def expr : Expr → Chained
  | .literal text => unchained [.text text]
  | .path absolute ss => unchained (joined absolute (segments true ss))
  | .projected self absolute trait rest =>
    unchained (head (type self) absolute (segments false trait) ++ joined true (segments true rest))
  | .invocation absolute path b ts => unchained (invocation absolute path b ts)
  | .inferred => unchained [.text "_"]
  | .unary c e => unchained (.text c.toString :: (expr e).alone false)
  | .borrow raw mutable e =>
    unchained (.text (if raw then (if mutable then "&raw mut " else "&raw const ") else if mutable then "&mut " else "&") ::
      (expr e).alone false)
  | .binary op left right =>
    unchained
      (if op = "=" then fill 0 ((expr left).alone false ++ .text " = " :: stop :: (expr right).alone false)
      else
        fill indentation (fill (-indentation) ((expr left).alone false) ++
          space :: .text (op ++ " ") :: (expr right).alone false))
  | .cast e t =>
    unchained (fill indentation (fill (-indentation) ((expr e).alone false) ++ space :: .text "as " :: type t))
  | .range first closed last =>
    unchained ((match first with
      | some e => (expr e).alone false
      | none => []) ++ .text (if closed then "..=" else "..") ::
      (match last with
        | some e => (expr e).alone false
        | none => []))
  | .parenthesized e => unchained (.text "(" :: (expr e).alone false ++ [.text ")"])
  | .tuple items _ => unchained (tuple (exprs items))
  | .list items _ => unchained (listItems items (exprs items))
  | .repeated e count =>
    unchained (.text "[" :: (expr e).alone false ++ .text "; " :: (expr count).alone false ++ [.text "]"])
  | .construct p fields =>
    unchained (limited 34 (fieldRows (fill (-indentation) ((expr p).alone false)) (inside.lines .values fields)) ++
      [.text "\x7d"])
  | .call f as _ => (expr f).followedBy (arguments as (exprs as))
  | .method receiver s as _ =>
    let dot := fun starts => (expr receiver).inChain starts ++ dotGap starts receiver ++ .text "." :: segment true s
    ⟨fun starts =>
        let shift := if starts && receiver.isShortName then -indentation else 0
        block (dot starts ++ even shift (arguments as (exprs as))),
      fun starts => dot starts ++ even 0 (arguments as (exprs as))⟩
  | .member e name => lined fun starts => (expr e).inChain starts ++ dotGap starts e ++ [.text ("." ++ name)]
  | .index e i => (expr e).followedBy (.text "[" :: (expr i).alone false ++ [.text "]"])
  | .attempt e => (expr e).followedBy [.text "?"]
  | .jump w l value =>
    unchained (.text w :: (match l with
      | some l => [.text " ", lifetime l]
      | none => []) ++
      (match value with
        | some e => .text " " :: (expr e).alone false
        | none => []))
  | .test p e =>
    unchained (fill 0 (.text "let " :: fill 0 (pattern p) ++ .text " = " :: stop :: (expr e).alone false))
  | .block l ws body => unchained (label l ++ words ws ++ block (inside.small body))
  | .loop l body => unchained (label l ++ .text "loop \x7b" :: tall (inside.lines .statements body))
  | .whileLoop l c body =>
    unchained (label l ++ .text "while " :: condition c ((expr c).alone false) ++
      .text "\x7b" :: stop :: tall (inside.lines .statements body))
  | .forLoop l p e body =>
    unchained (fill 0 (label l ++ .text "for " :: pattern p ++ .text " in " :: stop ::
      condition e ((expr e).alone false) ++ .text "\x7b" :: stop :: tall (inside.lines .statements body)))
  | .choice c body none =>
    unchained (block (.text "if " :: even (-indentation) (condition c ((expr c).alone false)) ++
      tallEnd body.tokens.isEmpty (inside.lines .statements body)))
  | .choice c body (some e) =>
    unchained (block (.text "if " :: even (-indentation) (condition c ((expr c).alone false)) ++
      inside.small body ++ .text " else " :: otherwise e))
  | .select e arms =>
    unchained (fill 0 (.text "match " :: condition e ((expr e).alone false) ++
      .text "\x7b" :: stop :: tall (inside.lines .arms arms)))
  | .closure b ws inputs _ r body =>
    unchained (fill 0 (binder b ++ words ws ++
      closure (patterns inputs)
        (match r with
          | some t => some (type t)
          | none => none) body ((expr body).alone false)))
  | .attributed as e => unchained (attributes as ++ (expr e).alone false)

/-- What is done otherwise: another choice, or statements. -/
def otherwise : Expr → List Piece
  | .choice c body none =>
    .text "if " :: even (-indentation) (condition c ((expr c).alone false)) ++ inside.small body
  | .choice c body (some e) =>
    .text "if " :: even (-indentation) (condition c ((expr c).alone false)) ++ inside.small body ++
      .text " else " :: otherwise e
  | .block _ _ body => inside.small body
  | _ => []

def exprs : List Expr → List (List Piece)
  | [] => []
  | e :: rest => (expr e).alone false :: exprs rest

def pattern : Pattern → List Piece
  | .wild => [.text "_"]
  | .rest => [.text ".."]
  | .value e => (expr e).alone false
  | .name byReference mutable n sub =>
    .text ((if byReference then "ref " else "") ++ (if mutable then "mut " else "") ++ n) ::
      (match sub with
        | some p => .text " @ " :: pattern p
        | none => [])
  | .choice _ cs =>
    let ps := barred (patterns cs)
    if cs.all Pattern.isSimple then fill 0 ps else even 0 ps
  | .parenthesized p => .text "(" :: pattern p ++ [.text ")"]
  | .reference mutable p => .text (if mutable then "&mut " else "&") :: pattern p
  | .slice items _ => .text "[" :: separatedOut (patterns items) ++ [.text "]"]
  | .tuple items trailing =>
    match items with
    | [p] => .text "(" :: block (soft :: pattern p ++ (if trailing then [.text ","] else []) ++ [last soft]) ++ [.text ")"]
    | items => listed "(" ")" (patterns items)
  | .construct p fields =>
    block (fieldRows ((expr p).alone false) (inside.lines .patterns fields)) ++ [.text "\x7d"]
  | .variant p items _ => (expr p).alone false ++ listed "(" ")" (patterns items)
  | .typed p t => pattern p ++ .text ": " :: type t

def patterns : List Pattern → List (List Piece)
  | [] => []
  | p :: rest => pattern p :: patterns rest

/-- Each attribute with the gap behind it. -/
def attributes : List Attribute → List Piece
  | [] => []
  | .plain inner absolute p :: rest => bracketed inner absolute p [] ++ attributes rest
  | .list inner absolute p b ts :: rest =>
    bracketed inner absolute p (tokens .mark (Token.inBrackets b ts)) ++ attributes rest
  | .value inner absolute p e :: rest =>
    (comment? inner absolute p e).getD (bracketed inner absolute p (.text " = " :: (expr e).alone false)) ++
      attributes rest
end

end Declgen.Source.Layout
