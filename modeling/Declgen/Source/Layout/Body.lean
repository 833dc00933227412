import Declgen.Source.Layout.Item
import Declgen.Source.Parse.Body

/-!
# Laying out what stands in braces

The tokens are read again, one level of braces after the other.
-/

namespace Declgen.Source

namespace Layout

section

variable (inside : Inside)

/-! ## Fields -/

def fieldValue (f : FieldValue) : List Piece :=
  attributes inside f.attributes ++ .text f.member ::
    (match f.value with
      | some e => .text ": " :: fill 0 ((expr inside e).alone false)
      | none => [])

def fieldValues (fs : FieldValues) : List Piece :=
  let rs := fs.fields.map (fieldValue inside)
  match fs.rest with
  | some e => rs.flatMap (fun ps => ps ++ [.text ",", space]) ++ .text ".." :: (expr inside e).alone false ++ [space]
  | none => if rs.isEmpty then [] else separated rs ++ [.gap { blank := 1, before := "," }]

def fieldPattern (f : FieldPattern) : List Piece :=
  attributes inside f.attributes ++
    (match f.member with
      | some m => [.text m, .text ": "]
      | none => []) ++ pattern inside f.pattern

def fieldPatterns (fs : FieldPatterns) : List Piece :=
  let rs := fs.fields.map (fieldPattern inside)
  if fs.more then rs.flatMap (fun ps => ps ++ [.text ",", space]) ++ [.text "..", space]
  else if rs.isEmpty then [] else separated rs ++ [.gap { blank := 1, before := "," }]

/-! ## Statements -/

/-- An expression that ends its line. -/
def expressionLine (e : Expr) (semicolon : Bool) : List Piece :=
  fill 0 ((expr inside e).alone true ++ ifSo semicolon ";") ++ [hard]

def statement (isLast : Bool) : Statement → List Piece
  | .declare as p value otherwise =>
    attributes inside as ++
      (match value, otherwise with
        | none, _ => fill 0 (.text "let " :: pattern inside p ++ [.text ";"])
        | some e, none =>
          fill 0 (.text "let " :: pattern inside p ++ .text " = " :: stop :: (expr inside e).alone false ++ [.text ";"])
        | some e, some ts =>
          fill 0 (.text "let " :: pattern inside p ++ .text " = " :: stop :: (expr inside e).alone false ++
            [space, .text "else "]) ++ stop :: block (inside.small ts ++ [.text ";"])) ++ [hard]
  | .item i => item inside false i ++ if isLast then [] else [hard]
  | .expr e false => expressionLine inside e e.isAction
  | .expr e true => expressionLine inside e (!e.needsNone)
  | .invocation as absolute path b ts semicolon =>
    attributes inside as ++ invocation absolute path b ts ++
      ifSo (semicolon || !isLast && b != .curly) ";" ++ [hard]
  | .empty => []

def statements : List Statement → List Piece
  | [] => []
  | s :: rest => statement inside rest.isEmpty s ++ statements rest

/-! ## Arms -/

/-- The expression that stands alone in the braces around it, as deep as it stands. -/
def unwrapped (n : Parser.Nested) : Nat → Expr → Expr
  | 0, e => e
  | depth + 1, .block none [] ts =>
    match Parser.bodyOf n (Parser.statement n) ts with
    | some (([], [.expr e false]), _) => unwrapped n depth e
    | _ => .block none [] ts
  | _, e => e

/-- What an arm does: statements in braces, or an expression that gets braces where it takes several lines. -/
def armBody : Expr → List Piece
  | .tuple [] _ => [.text "\x7b", stop, .text "\x7d"]
  | .block l [] ts => label l ++ .text "\x7b" :: stop :: tall (inside.lines .statements ts)
  | e =>
    let braces := e.fitsStatement
    stop :: block (.gap { before := if braces then "\x7b" else "(" } :: (expr inside e).alone true ++
      [.gap {
        shift := -indentation
        before := if braces && e.isAction then ";" else ""
        after := if braces then "\x7d" else "),"
        between := if e.endsItself then "" else "," }])

def arm (n : Parser.Nested) (depth : Nat) (a : Arm) : List Piece :=
  attributes inside a.attributes ++
    fill 0 (pattern inside a.pattern ++
      (match a.guard with
        | some e => .text " if " :: (expr inside e).alone false
        | none => []) ++ .text " => " :: armBody inside (unwrapped n depth a.body))

/-! ## All levels -/

/-- Statements in braces, in a group that is open. -/
def smallOf (n : Parser.Nested) (ts : List Token) : List Piece :=
  .text "\x7b" ::
    (match Parser.bodyOf n (Parser.statement n) ts with
      | some (([], []), _) => []
      | some ((as, [.expr e false]), _) =>
        outdented (space :: attributes inside as ++ fill 0 ((expr inside e).alone true) ++ [space])
      | some ((as, ss), _) => outdented (space :: attributes inside as ++ statements inside ss)
      | none => []) ++ [.text "\x7d"]

/-- The parts of a body, with its inner attributes in front. -/
def linesOf {α : Type} (n : Parser.Nested) (part : Parser α) (set : List α → List Piece) (ts : List Token) :
    List Piece :=
  match Parser.bodyOf n part ts with
  | some ((as, parts), _) => attributes inside as ++ set parts
  | none => []

end

/-- The layout of tokens in which braces nest less than `depth` times. -/
def insideAt : Nat → Inside
  | 0 => ⟨fun _ => [], fun _ _ => []⟩
  | depth + 1 => {
      small := fun ts => smallOf (insideAt depth) (Parser.any ts) ts
      lines := fun c ts =>
        let n := Parser.any ts
        let inner := insideAt depth
        match c with
        | .statements => linesOf inner n (Parser.statement n) (statements inner) ts
        | .arms => linesOf inner n (Parser.arm n) (fun as => as.flatMap fun a => arm inner n depth a ++ [hard]) ts
        | .values =>
          match Parser.fieldValues n ts with
          | some (fs, _) => fieldValues inner fs
          | none => []
        | .patterns =>
          match Parser.fieldPatterns n ts with
          | some (fs, _) => fieldPatterns inner fs
          | none => []
        | .items => linesOf inner n (Parser.item n) (fun is => is.flatMap (item inner false)) ts
        | .traitItems => linesOf inner n (Parser.traitItem n) (fun is => is.flatMap (item inner true)) ts
        | .methodItems => linesOf inner n (Parser.methodItem n) (fun is => is.flatMap (item inner true)) ts
        | .externalItems => linesOf inner n (Parser.externalItem n) (fun is => is.flatMap (item inner true)) ts }

/-- The layout of any tokens. -/
def inside : Inside where
  small := fun ts => (insideAt (ts.length + 1)).small ts
  lines := fun c ts => (insideAt (ts.length + 1)).lines c ts

end Layout

/-- The text of a file. -/
def layout (items : List Item) : String :=
  String.ofList (Layout.written (items.flatMap (Layout.item Layout.inside false)))

end Declgen.Source
