import Declgen.Source.Layout.Basic
import Declgen.Source.Written

/-!
# Laying out the parts of types

Between angle brackets lifetimes come first. What is as good as nothing is left out: empty angle brackets, the
turbofish of a type, separators after the last item.
-/

namespace Declgen.Source.Layout

def lifetime (name : String) : Piece := .text ("'" ++ name)

def binder : Option Binder → List Piece
  | none => []
  | some b => [.text ("for<" ++ ", ".intercalate (b.lifetimes.map ("'" ++ ·)) ++ "> ")]

def abi : Option (Option String) → List Piece
  | none => []
  | some none => [.text "extern "]
  | some (some name) => [.text "extern ", .text name, .text " "]

/-- Parts of a path with two colons between them. -/
def joined (absolute : Bool) : List (List Piece) → List Piece
  | [] => []
  | ps :: rest => (if absolute then [.text "::"] else []) ++ ps ++ joined true rest

/-- Written as `<self as trait>`. -/
def head (self : List Piece) (absolute : Bool) (trait : List (List Piece)) : List Piece :=
  .text "<" :: self ++ (if trait.isEmpty then [] else .text " as " :: joined absolute trait) ++ [.text ">"]

/-- Arguments in angle brackets; the mark tells lifetimes. -/
def angled (turbofish : Bool) (args : List (Bool × List Piece)) : List Piece :=
  if args.isEmpty then []
  else listed (if turbofish then "::<" else "<") ">" (Written.markedFirst args)

/-- Bounds with plus signs between them. -/
def added : List (List Piece) → List Piece
  | [] => []
  | [ps] => ps
  | ps :: rest => ps ++ .text " + " :: added rest

/-- Bounds with plus signs between them, which may stand on lines of their own. -/
def addedLines : List (List Piece) → List Piece
  | [] => []
  | ps :: rest => ps ++ rest.flatMap fun ps => space :: .text "+ " :: ps

/-- Bounds of a name. -/
def constraint (rs : List (List Piece)) : List Piece :=
  fill indentation (if rs.isEmpty then [] else .text ": " :: addedLines rs)

/-- Inputs in round brackets, and dots for more. -/
def pointerInputRows (variadic : Bool) (ps : List (List Piece)) : List Piece :=
  if variadic then
    .text "(" :: block (soft :: ps.flatMap (fun p => p ++ [.text ",", space]) ++ [.text "...", last soft]) ++
      [.text ")"]
  else listed "(" ")" ps

/-- The inputs in round brackets of a path. -/
def inputRows (ps : List (List Piece)) : List Piece := if ps.isEmpty then [last soft] else soft :: rows ps

/-- What a function gives, after its inputs. -/
def result : Option (List Piece) → List Piece
  | none => []
  | some ps => .text " -> " :: ps

end Declgen.Source.Layout
