/-!
# Laying out lines

A line is a row of pieces: text, gaps, and groups of them. A group that fits into the room that is left is
written on one line. Of any other, each gap becomes a line break if the group is even; if it is not, a gap
becomes one where what follows it does not fit. A group is measured together with what follows it up to the next
gap outside of it, so that closing text counts.
-/

namespace Declgen.Source.Layout

/-- Where a line may break. -/
structure Gap where
  /-- Spaces if it does not. -/
  blank : Nat := 0
  /-- How much the next line is moved to the right. -/
  shift : Int := 0
  /-- Written where it breaks, at the end of the line. -/
  before : String := ""
  /-- Written where it breaks, at the start of the next line. -/
  after : String := ""
  /-- Written where it does not break. -/
  between : String := ""
  /-- Never breaks. A group is measured up to it all the same. -/
  fixed : Bool := false
deriving DecidableEq

inductive Piece where
  | text (s : String)
  | gap (g : Gap)
  /-- A group starts; its lines are moved to the right by `shift` if it breaks. A wide one always does. -/
  | enter (shift : Int) (even wide : Bool)
  /-- A group ends. -/
  | leave
deriving DecidableEq

/-! ## Writing -/

def margin : Int := 89
def minimum : Int := 60

/-- More than any line has room for. -/
def endless : Nat := 0xffff

/-- The room on a line with this indentation. -/
def room (indent : Int) : Int := max (margin - indent) minimum

/-- There is room for all up to the next gap outside of `depth` groups. -/
def fits (space : Int) : Nat → List Piece → Bool
  | depth, ps =>
    if space < 0 then false
    else
      match depth, ps with
      | _, [] => true
      | depth, .text s :: rest => fits (space - s.utf8ByteSize) depth rest
      | depth, .enter _ _ wide :: rest => fits (if wide then space - endless else space) (depth + 1) rest
      | depth, .leave :: rest => fits space (depth - 1) rest
      | 0, .gap _ :: _ => true
      | depth + 1, .gap g :: rest => fits (space - g.blank) (depth + 1) rest

/-- A group that is open. -/
inductive Frame where
  | fits
  /-- The indentation around it is `indent`. -/
  | broken (indent : Int) (even : Bool)
deriving DecidableEq

/-- What a line holds so far. -/
structure Cursor where
  space : Int
  indent : Int
  /-- Spaces to be written before the next text. -/
  pending : Nat
  /-- The open groups, the innermost first. -/
  frames : List Frame

/-- A gap before `rest` becomes a line break. Outside of groups each does that may. -/
def Cursor.breaks (c : Cursor) (g : Gap) (rest : List Piece) : Bool :=
  !g.fixed && match c.frames with
  | [] => true
  | .fits :: _ => false
  | .broken _ true :: _ => true
  | .broken _ false :: _ => !fits (c.space - g.blank) 0 rest

def blanks (n : Nat) : List Char := List.replicate n ' '

/-- What is written for a piece with `rest` behind it, and what the line holds then. -/
def step (c : Cursor) (rest : List Piece) : Piece → List Char × Cursor
  | .text s => (blanks c.pending ++ s.toList, { c with space := c.space - s.utf8ByteSize, pending := 0 })
  | .enter shift even wide =>
    if !wide && fits c.space 1 rest then ([], { c with frames := .fits :: c.frames })
    else ([], { c with indent := c.indent + shift, frames := .broken c.indent even :: c.frames })
  | .leave =>
    match c.frames with
    | .broken indent _ :: frames => ([], { c with indent, frames })
    | .fits :: frames => ([], { c with frames })
    | [] => ([], c)
  | .gap g =>
    if c.breaks g rest then
      let indent := c.indent + g.shift
      let before := if g.before = "" then [] else blanks c.pending ++ g.before.toList
      if g.after = "" then (before ++ ['\n'], { c with space := room indent, pending := indent.toNat })
      else
        (before ++ '\n' :: blanks indent.toNat ++ g.after.toList,
          { c with space := room indent - g.after.utf8ByteSize, pending := 0 })
    else
      (g.between.toList,
        { c with space := c.space - g.blank - g.between.utf8ByteSize, pending := c.pending + g.blank })

/-- Pieces after what is written already, which is given from the last character to the first. -/
def writeAfter (out : List Char) (c : Cursor) : List Piece → List Char
  | [] => out.reverse
  | p :: rest =>
    let (cs, c) := step c rest p
    writeAfter (cs.reverse ++ out) c rest

/-- The text of lines that start without indentation. -/
def written (pieces : List Piece) : List Char := writeAfter [] ⟨room 0, 0, 0, []⟩ pieces

/-! ## Pieces -/

def indentation : Int := 4

/-- Breaks or vanishes. -/
def soft : Piece := .gap {}

/-- Breaks or is a space. -/
def space : Piece := .gap { blank := 1 }

/-- Always breaks: no line has room for it. -/
def hard : Piece := .gap { blank := endless }

/-- Never breaks, but what stands before it is measured without what stands behind. -/
def stop : Piece := .gap { fixed := true }

/-- The last gap of a group: the next line is not indented with it. -/
def last : Piece → Piece
  | .gap g => .gap { g with shift := g.shift - indentation }
  | p => p

/-- Pieces of which the last is the last gap of a group. -/
def outdented (ps : List Piece) : List Piece := ps.dropLast ++ (ps.getLast?.map last).toList

/-- Breaks with a comma before, or vanishes. -/
def lastComma : Piece := .gap { shift := -indentation, before := "," }

/-- Breaks with a comma before, or is a space. -/
def lastSpace : Piece := .gap { blank := 1, shift := -indentation, before := "," }

/-- A group whose gaps break together. -/
def even (shift : Int) (ps : List Piece) : List Piece := .enter shift true false :: ps ++ [.leave]

/-- A group whose gaps break together, with lines moved to the right. -/
def block (ps : List Piece) : List Piece := even indentation ps

/-- A group whose gaps break where they need to. -/
def fill (shift : Int) (ps : List Piece) : List Piece := .enter shift false false :: ps ++ [.leave]

/-- The length on one line. -/
def width : List Piece → Nat
  | [] => 0
  | .text s :: rest => s.utf8ByteSize + width rest
  | .gap g :: rest => g.blank + width rest
  | _ :: rest => width rest

/-- A group whose gaps break together, and do so if its length exceeds a limit. -/
def limited (limit : Nat) (ps : List Piece) : List Piece :=
  .enter indentation true (limit < width ps) :: ps ++ [.leave]

/-- Rows with a comma and a gap between each two. -/
def separatedBy (gap : Piece) : List (List Piece) → List Piece
  | [] => []
  | [ps] => ps
  | ps :: rest => ps ++ .text "," :: gap :: separatedBy gap rest

def separated (rs : List (List Piece)) : List Piece := separatedBy space rs

/-- Rows with a comma between each two; after the last a comma where lines break. -/
def rows (rs : List (List Piece)) : List Piece := if rs.isEmpty then [] else separated rs ++ [lastComma]

/-- Rows between brackets. -/
def listed (open_ close : String) (rs : List (List Piece)) : List Piece :=
  .text open_ :: (if rs.isEmpty then [] else block (soft :: rows rs)) ++ [.text close]

/-- Rows in round brackets, where one alone needs a comma. -/
def tuple : List (List Piece) → List Piece
  | [ps] => .text "(" :: block (soft :: ps ++ [.text ",", last soft]) ++ [.text ")"]
  | rs => listed "(" ")" rs

/-- Lines between braces, if there are any. -/
def lines (ps : List Piece) : List Piece := if ps.isEmpty then [] else hard :: outdented ps

end Declgen.Source.Layout
