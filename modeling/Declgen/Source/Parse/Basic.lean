import Declgen.Source.Token

/-!
# Parsers of tokens

A parser takes tokens off the front and gives what follows, or has no answer. A loop is given the tokens at its
start as a budget: each round takes one at least.
-/

namespace Declgen.Source

abbrev Parser := StateT (List Token) Option

namespace Parser

/-! ## Single tokens -/

/-- A word without a mark. -/
def keyword (w : String) : Parser Unit
  | .word name false :: rest => if name = w then some ((), rest) else none
  | _ => none

/-- One of some words without a mark. -/
def keywordOf (ws : List String) : Parser String
  | .word name false :: rest => if ws.contains name then some (name, rest) else none
  | _ => none

def mark (c : Char) : Parser Unit
  | .mark d _ :: rest => if d = c then some ((), rest) else none
  | _ => none

/-- Marks without blanks between them. -/
def marks : List Char → Parser Unit
  | [], ts => some ((), ts)
  | [c], ts => mark c ts
  | c :: more, .mark d true :: rest => if d = c then marks more rest else none
  | _, _ => none

def colons : Parser Unit := marks [':', ':']

def opening (b : Bracket) : Parser Unit
  | .opening k :: rest => if k = b then some ((), rest) else none
  | _ => none

def closing (b : Bracket) : Parser Unit
  | .closing k :: rest => if k = b then some ((), rest) else none
  | _ => none

/-- A name, spelled with its mark if it has one. -/
def name : Parser String
  | .word w raw :: rest => if raw || !isReserved w then some (Token.spelled w raw, rest) else none
  | _ => none

def lifetime : Parser String
  | .mark '\'' _ :: .word w raw :: rest => some (Token.spelled w raw, rest)
  | _ => none

/-- A literal that needs no sign: a number, a character, a string or a truth value. -/
def unsigned : Parser String
  | .literal s :: rest => some (s, rest)
  | .word w false :: rest => if w = "true" || w = "false" then some (w, rest) else none
  | _ => none

/-- A literal, with its sign if it is a number. -/
def literal : Parser String
  | .mark '-' _ :: .literal s :: rest => if s.toList.head?.any Char.isDigit then some ("-" ++ s, rest) else none
  | ts => unsigned ts

/-- The end of the tokens. -/
def ended : Parser Unit
  | [] => some ((), [])
  | _ => none

/-- The end of the tokens, or of those in a bracket. -/
def finish : Parser Unit
  | [] => some ((), [])
  | .closing b :: rest => some ((), .closing b :: rest)
  | _ => none

/-- Any word. -/
def word : Parser String
  | .word w raw :: rest => some (Token.spelled w raw, rest)
  | _ => none

/-! ## Combinations -/

/-- Tries a parser that may find nothing. -/
def optionally {α : Type} (p : Parser α) : Parser (Option α) := fun ts =>
  match p ts with
  | some (a, rest) => some (some a, rest)
  | none => some (none, ts)

/-- Tries a parser, and tells whether it found something. -/
def accepts {α : Type} (p : Parser α) : Parser Bool := do
  return (← optionally p).isSome

/-- Whether a parser would find something. -/
def ahead {α : Type} (p : Parser α) : Parser Bool := fun ts => some ((p ts).isSome, ts)

/-- Takes nothing, but wants to see what a parser would find. -/
def sees {α : Type} (p : Parser α) : Parser Unit := fun ts => if (p ts).isSome then some ((), ts) else none

/-- Takes nothing, and wants that a parser would find nothing. -/
def lacks {α : Type} (p : Parser α) : Parser Unit := fun ts => if (p ts).isSome then none else some ((), ts)

/-- Goes on only if something holds. -/
def require (b : Bool) : Parser Unit := if b then pure () else failure

/-- Gives a loop its budget. -/
def loop {α : Type} (p : List Token → Parser α) : Parser α := fun ts => p ts ts

/-- Items with separators between them up to an end, and whether one stands after the last, too. -/
def separated {α : Type} (item : Parser α) (separator last : Parser Unit) :
    List Token → Parser (List α × Bool)
  | [] => do
    last
    return ([], false)
  | _ :: budget => do
    if ← accepts last then return ([], false)
    let a ← item
    if ← accepts last then return ([a], false)
    separator
    let (as, trailing) ← separated item separator last budget
    return (a :: as, as.isEmpty || trailing)

/-- Items one after the other up to the end of the tokens. -/
def repeated {α : Type} (item : Parser α) : List Token → Parser (List α)
  | [] => do
    ended
    return []
  | _ :: budget => do
    if ← accepts ended then return []
    let a ← item
    return a :: (← repeated item budget)

/-- Items with commas between them up to an end, and whether one stands after the last, too. -/
def listed {α : Type} (item : Parser α) (last : Parser Unit) : Parser (List α × Bool) :=
  loop (separated item (mark ',') last)

/-- What stands between brackets, and nothing else. -/
def inBrackets {α : Type} (b : Bracket) (p : Parser α) : Parser α := do
  opening b
  let a ← p
  closing b
  return a

/-- The tokens up to the closing bracket of one that is open, with `depth` more open inside. -/
def bracketed : Nat → Parser (List Token)
  | _, [] => none
  | depth, .opening b :: rest => (bracketed (depth + 1) rest).map fun (ts, rest) => (.opening b :: ts, rest)
  | 0, .closing _ :: rest => some ([], rest)
  | depth + 1, .closing b :: rest => (bracketed depth rest).map fun (ts, rest) => (.closing b :: ts, rest)
  | depth, t :: rest => (bracketed depth rest).map fun (ts, rest) => (t :: ts, rest)

theorem openAfter_of_bracketed {depth : Nat} {ts inner rest : List Token}
    (h : bracketed depth ts = some (inner, rest)) : Token.openAfter depth inner = some 0 := by
  induction depth, ts using bracketed.induct generalizing inner with
  | case1 depth => simp [bracketed] at h
  | case2 depth b ts ih =>
    obtain ⟨⟨more, _⟩, hmore, hout⟩ := Option.map_eq_some_iff.mp h
    obtain ⟨rfl, rfl⟩ := Prod.mk.inj hout
    exact ih hmore
  | case3 b ts =>
    obtain ⟨rfl, rfl⟩ := Prod.mk.inj (Option.some.inj h)
    rfl
  | case4 depth b ts ih =>
    obtain ⟨⟨more, _⟩, hmore, hout⟩ := Option.map_eq_some_iff.mp h
    obtain ⟨rfl, rfl⟩ := Prod.mk.inj hout
    exact ih hmore
  | case5 depth t ts hopening hfirst hlater ih =>
    cases t with
    | opening b => exact (hopening b rfl).elim
    | closing b =>
      cases depth with
      | zero => exact (hfirst b rfl rfl).elim
      | succ depth => exact (hlater depth b rfl rfl).elim
    | word _ _ | mark _ _ | literal _ =>
      obtain ⟨⟨more, _⟩, hmore, hout⟩ := Option.map_eq_some_iff.mp h
      obtain ⟨rfl, rfl⟩ := Prod.mk.inj hout
      rw [Token.openAfter]
      exact ih hmore

/-- The tokens up to the closing bracket of the one that is open. -/
def enclosed : Parser Enclosed := fun ts =>
  match h : bracketed 0 ts with
  | some (inner, rest) => some (⟨inner, openAfter_of_bracketed h⟩, rest)
  | none => none

/-- The tokens between brackets. -/
def inside (b : Bracket) : Parser Enclosed := do
  opening b
  enclosed

/-- A bracket with all that is in it. -/
def group : Parser (Bracket × Enclosed)
  | .opening b :: rest => (enclosed rest).map fun (ts, rest) => ((b, ts), rest)
  | _ => none

/-- Names with two colons between them. -/
def joined (item : Parser String) : List Token → Parser (List String)
  | [] => failure
  | _ :: budget => do
    let n ← item
    if ← accepts colons then return n :: (← joined item budget) else return [n]

/-- A name in a path without arguments. -/
def simpleName : Parser String := keywordOf ["self", "super", "crate", "Self"] <|> name

/-- A path without arguments: whether it is absolute, and its names. -/
def simplePath : Parser (Bool × List String) := do
  let absolute ← accepts colons
  let path ← loop (joined simpleName)
  return (absolute, path)

end Parser

end Declgen.Source
