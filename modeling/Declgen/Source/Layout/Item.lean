import Declgen.Source.Item
import Declgen.Source.Layout.Node

/-!
# Laying out items

Every item ends its line. Fields and variants in braces have a line each; those in brackets share one if they fit.
-/

namespace Declgen.Source.Layout

/-! ## Imports and visibility -/

/-- Some restrictions need no word in front. -/
def visibility : Visibility → List Piece
  | .inherited => []
  | .everywhere => [.text "pub "]
  | .within absolute path =>
    let short := !absolute && (path = ["self"] || path = ["super"] || path = ["crate"])
    [.text ("pub(" ++ (if short then "" else "in ") ++ pathText absolute path ++ ") ")]

mutual
/-- What is imported. After names in braces the next tree starts a line. -/
def useTree : UseTree → List Piece
  | .name n => [.text n]
  | .rename n m => [.text n, .text " as ", .text m]
  | .glob => [.text "*"]
  | .inside n tree => .text n :: .text "::" :: useTree tree
  | .group trees =>
    .text "\x7b" :: block (soft :: fill 0 (useTrees trees) ++ [lastComma]) ++ [.text "\x7d"]

def useTrees : List UseTree → List Piece
  | [] => []
  | [tree] => useTree tree
  | tree :: rest =>
    useTree tree ++ .text "," :: (if tree.endsInBraces then hard else space) :: useTrees rest
end

variable (inside : Inside)

/-! ## Generic items -/

def parameter : Parameter → List Piece
  | .lifetime as n bs =>
    attributes inside as ++ lifetime n ::
      (if bs.isEmpty then [] else .text ": " :: added (bs.map fun b => [lifetime b]))
  | .type as n bs t =>
    let otherwise := match t with
      | some t => space :: .text "= " :: type inside t
      | none => []
    attributes inside as ++ .text n ::
      fill indentation ((if bs.isEmpty then [] else .text ": " :: addedLines (bounds inside bs)) ++ otherwise)
  | .value as n t e =>
    attributes inside as ++ .text "const " :: .text n :: .text ": " :: type inside t ++
      (match e with
        | some e => .text " = " :: (expr inside e).alone false
        | none => [])

/-- Parameters in angle brackets, lifetimes first. -/
def parameters (ps : List Parameter) : List Piece :=
  if ps.isEmpty then []
  else
    .text "<" ::
      even 0 (soft :: rows (Written.markedFirst (ps.map fun p => (p.isLifetime, parameter inside p)))) ++ [.text ">"]

def predicate : Predicate → List Piece
  | .lifetime n bs =>
    lifetime n :: .text ":" ::
      fill indentation (if bs.isEmpty then [] else .text " " :: addedLines (bs.map fun b => [lifetime b]))
  | .type b t bs =>
    binder b ++ type inside t ++ .text ":" ::
      fill (if bs.length = 1 then 0 else indentation)
        (if bs.isEmpty then [] else .text " " :: addedLines (bounds inside bs))

/-- Conditions on lines of their own, in front of braces. -/
def whereBody (ps : List Predicate) : List Piece :=
  if ps.isEmpty then [.text " "]
  else
    last hard :: .text "where" :: hard ::
      outdented (ps.flatMap fun p => predicate inside p ++ [.text ",", hard])

/-- Conditions on lines of their own, where a semicolon ends the item. -/
def whereEnd (ps : List Predicate) : List Piece :=
  if ps.isEmpty then [.text ";"]
  else
    last hard :: .text "where" :: hard :: separatedBy hard (ps.map (predicate inside)) ++ [.text ";"]

/-- Conditions that may share a line, in front of what follows. -/
def whereLine (ps : List Predicate) : List Piece :=
  if ps.isEmpty then [.text " "]
  else last space :: .text "where" :: space :: separated (ps.map (predicate inside)) ++ [lastSpace]

/-- Conditions that may share a line, where a semicolon ends the item. -/
def whereLineEnd (ps : List Predicate) : List Piece :=
  if ps.isEmpty then [.text ";"]
  else last space :: .text "where" :: space :: separated (ps.map (predicate inside)) ++ [.text ";"]

/-! ## Fields -/

def field (f : Field) : List Piece :=
  attributes inside f.attributes ++ visibility f.visibility ++
    (match f.name with
      | some n => [.text n, .text ": "]
      | none => []) ++ type inside f.type

/-- Fields in round brackets, in a group that is open. -/
def positional (fs : List Field) : List Piece :=
  .text "(" :: (if fs.isEmpty then [] else even 0 (soft :: rows (fs.map (field inside)))) ++ [.text ")"]

/-- Rows between braces, each on a line of its own. -/
def rowLines (rs : List (List Piece)) : List Piece := lines (rs.flatMap fun ps => ps ++ [.text ",", hard])

def variantFields : Fields → List Piece
  | .named [] => [.text " \x7b\x7d"]
  | .named fs =>
    .text " \x7b" :: block (space :: separated (fs.map (field inside)) ++ [lastSpace]) ++ [.text "\x7d"]
  | .positional fs => block (positional inside fs)
  | .nothing => []

def variant (v : Variant) : List Piece :=
  attributes inside v.attributes ++ .text v.name :: variantFields inside v.fields ++
    (match v.number with
      | some e => .text " = " :: (expr inside e).alone false
      | none => [])

/-! ## Functions -/

def input : Input → List Piece
  | .receiver as reference mutable t =>
    attributes inside as ++
      (match reference with
        | some (some l) => [.text "&", lifetime l, .text " "]
        | some none => [.text "&"]
        | none => []) ++ (if mutable then [.text "mut "] else []) ++ .text "self" ::
      (match t with
        | some t => .text ": " :: type inside t
        | none => [])
  | .typed as p t => attributes inside as ++ pattern inside p ++ .text ": " :: type inside t
  | .variadic as p =>
    attributes inside as ++
      (match p with
        | some p => pattern inside p ++ [.text ": "]
        | none => []) ++ [.text "..."]

def inputs (is : List Input) : List Piece :=
  let rs := is.map (input inside)
  if is.isEmpty then []
  else even 0 (soft :: if is.any Input.isVariadic then separated rs ++ [last soft] else rows rs)

def signature (s : Signature) : List Piece :=
  words (["const"].filter (fun _ => s.constant) ++ ["async"].filter (fun _ => s.async) ++
    ["unsafe"].filter (fun _ => s.unchecked)) ++ abi s.abi ++ .text "fn " :: .text s.name ::
    parameters inside s.generics.parameters ++ .text "(" :: stop :: inputs inside s.inputs ++ .text ")" ::
    even (-indentation) (result (s.result.map (type inside)))

/-! ## Items -/

/-- The lines of a body, its inner attributes first. -/
def bodyLines (c : Parser.Code) (b : Body) : List Piece :=
  lines (attributes inside b.attributes ++ inside.lines c b.tokens)

/-- An item with lines in braces. -/
def braced (lead content : List Piece) : List Piece :=
  block (lead ++ .text "\x7b" :: content) ++ [.text "\x7d", hard]

/-- A word in front, if something holds. -/
def ifSo (b : Bool) (word : String) : List Piece := if b then [.text word] else []

/-- The value of a constant, behind its type. -/
def assigned : Option Expr → List Piece
  | some e => .text " = " :: stop :: (expr inside e).alone false
  | none => []

/-- The lines of a declaration, with what stands before its keyword. What is `associated` belongs to a type. -/
def declaration (associated : Bool) (lead : List Piece) : Declaration → List Piece
  | .use_ absolute tree =>
    lead ++ .text (if absolute then "use ::" else "use ") :: useTree tree ++ [.text ";", hard]
  | .typeAlias n g t =>
    block (lead ++ .text "type " :: .text n :: parameters inside g.parameters ++ whereLine inside g.predicates ++
      .text "= " :: stop :: fill (-indentation) (type inside t) ++ [.text ";"]) ++ [hard]
  | .associatedType overridable n g bs t =>
    block (lead ++ ifSo overridable "default " ++ .text "type " :: .text n :: parameters inside g.parameters ++
      (if bs.isEmpty then [] else .text ": " :: addedLines (bounds inside bs)) ++
      (match t with
        | some t => .text " = " :: stop :: fill (-indentation) (type inside t)
        | none => []) ++ whereLineEnd inside g.predicates) ++ [hard]
  | .constant overridable n t e =>
    even (if associated then indentation else 0)
      (lead ++ ifSo overridable "default " ++ .text "const " :: .text n :: .text ": " :: type inside t ++
        assigned inside e ++ [.text ";"]) ++ [hard]
  | .static mutable n t e =>
    even 0 (lead ++ .text "static " :: ifSo mutable "mut " ++ .text n :: .text ": " :: type inside t ++
      assigned inside e ++ [.text ";"]) ++ [hard]
  | .externalType n g =>
    even 0 (lead ++ .text "type " :: .text n :: parameters inside g.parameters ++ [.text ";"]) ++ [hard]
  | .struct n g fs =>
    let start := lead ++ .text "struct " :: .text n :: parameters inside g.parameters
    match fs with
    | .named fs => braced (start ++ whereBody inside g.predicates) (rowLines (fs.map (field inside)))
    | .positional fs => block (start ++ positional inside fs ++ whereEnd inside g.predicates) ++ [hard]
    | .nothing => block (start ++ whereEnd inside g.predicates) ++ [hard]
  | .union n g fs =>
    braced (lead ++ .text "union " :: .text n :: parameters inside g.parameters ++ whereBody inside g.predicates)
      (rowLines (fs.map (field inside)))
  | .enum n g vs =>
    braced (lead ++ .text "enum " :: .text n :: parameters inside g.parameters ++ whereBody inside g.predicates)
      (rowLines (vs.map (variant inside)))
  | .module unchecked n b =>
    let start := lead ++ ifSo unchecked "unsafe " ++ [.text "mod ", .text n]
    match b with
    | some b => braced (start ++ [.text " "]) (bodyLines inside .items b)
    | none => block (start ++ [.text ";"]) ++ [hard]
  | .externalCrate n m =>
    lead ++ .text "extern crate " :: .text n ::
      (match m with
        | some m => [.text " as ", .text m]
        | none => []) ++ [.text ";", hard]
  | .external unchecked name b =>
    braced (ifSo unchecked "unsafe " ++ abi (some name)) (bodyLines inside .externalItems b)
  | .function overridable s b =>
    let start := lead ++ ifSo overridable "default " ++ signature inside s
    match b with
    | some b => braced (start ++ whereBody inside s.generics.predicates) (bodyLines inside .statements b)
    | none => block (start ++ whereEnd inside s.generics.predicates) ++ [hard]
  | .trait unchecked automatic n g bs b =>
    braced (lead ++ ifSo unchecked "unsafe " ++ ifSo automatic "auto " ++ .text "trait " :: .text n ::
      parameters inside g.parameters ++ (if bs.isEmpty then [] else .text ": " :: added (bounds inside bs)) ++
      whereBody inside g.predicates) (bodyLines inside .traitItems b)
  | .traitAlias n g bs =>
    block (lead ++ .text "trait " :: .text n :: parameters inside g.parameters ++ .text " = " :: stop ::
      addedLines (bounds inside bs) ++ whereEnd inside g.predicates) ++ [hard]
  | .implementation overridable unchecked g negative trait self b =>
    let start := block (ifSo overridable "default " ++ ifSo unchecked "unsafe " ++ .text "impl" ::
      parameters inside g.parameters)
    let traitOf := match trait with
      | some (absolute, ss) =>
        ifSo negative "!" ++ joined absolute (segments inside false ss) ++ [space, .text "for "]
      | none => []
    braced (fill (-indentation) (start ++ .text " " :: traitOf ++ type inside self) ++ whereBody inside g.predicates)
      (bodyLines inside .methodItems b)
  | .invocation absolute path name b ts =>
    match absolute, path, name, rules? ts with
    | false, ["macro_rules"], some n, some rs => ruleSet n rs ++ [hard]
    | _, _, _, _ => invocationOf absolute path name b ts ++ ifSo (b != .curly) ";" ++ [hard]

def item (associated : Bool) (i : Item) : List Piece :=
  attributes inside i.attributes ++ declaration inside associated (visibility i.visibility) i.declaration

end Declgen.Source.Layout
