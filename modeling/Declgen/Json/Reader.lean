import Declgen.Json.Fault
import Declgen.Number.Scaled

/-!
# Reading JSON

A reader takes the characters of a text and gives a value with what follows it. Containers are read through
one loop, whose step says what to do with each item, so that a caller can check a document while it is read:
the first fault in the text wins, whether it is one of the text or one of the caller.
-/

namespace Declgen.Json

abbrev Reader (α : Type) := List Char → Except Fault (α × List Char)

def isBlank (c : Char) : Bool := c = ' ' || c = '\t' || c = '\r' || c = '\n'

def skipBlanks (cs : List Char) : List Char := cs.dropWhile isBlank

/-- Steps until one is the last. Every step but the last takes a character, so a budget as long as the text
is never used up. -/
def loop {σ : Type} (step : σ → Reader (σ × Bool)) (budget : List Char) (s : σ) : Reader σ := fun cs => do
  let ((s, last), rest) ← step s cs
  if last then .ok (s, rest)
  else
    match budget with
    | [] => .error (.ended .value)
    | _ :: budget => loop step budget s rest

/-! ## Strings -/

def hexValue? (c : Char) : Option Nat :=
  if '0' ≤ c && c ≤ '9' then some (c.toNat - 48)
  else if 'a' ≤ c && c ≤ 'f' then some (c.toNat - 87)
  else if 'A' ≤ c && c ≤ 'F' then some (c.toNat - 55)
  else none

/-- Four hexadecimal digits. A text that ends within four bytes is cut short, any other is wrong. -/
def hexEscape : Reader Nat
  | a :: b :: c :: d :: rest =>
    match hexValue? a, hexValue? b, hexValue? c, hexValue? d with
    | some a, some b, some c, some d => .ok (((a * 16 + b) * 16 + c) * 16 + d, rest)
    | _, _, _, _ => .error .invalidEscape
  | cs => if cs.foldl (fun n c => n + c.utf8Size) 0 < 4 then .error (.ended .string) else .error .invalidEscape

def isLeadSurrogate (n : Nat) : Bool := 0xd800 ≤ n && n ≤ 0xdbff

def isTrailSurrogate (n : Nat) : Bool := 0xdc00 ≤ n && n ≤ 0xdfff

/-- What follows `\u`: one unit, or a pair of surrogates. -/
def unicodeEscape : Reader Char := fun cs => do
  let (n, rest) ← hexEscape cs
  if isTrailSurrogate n then .error .loneSurrogate
  else if isLeadSurrogate n then
    match rest with
    | [] | ['\\'] => .error (.ended .string)
    | '\\' :: 'u' :: rest => do
      let (m, rest) ← hexEscape rest
      if isTrailSurrogate m then .ok (Char.ofNat ((n - 0xd800) * 0x400 + (m - 0xdc00) + 0x10000), rest)
      else .error .loneSurrogate
    | _ => .error .unfinishedSurrogate
  else .ok (Char.ofNat n, rest)

def simpleEscape? (c : Char) : Option Char :=
  match c with
  | '"' => some '"'
  | '\\' => some '\\'
  | '/' => some '/'
  | 'b' => some '\x08'
  | 'f' => some '\x0c'
  | 'n' => some '\n'
  | 'r' => some '\r'
  | 't' => some '\t'
  | _ => none

/-- The next character of a string, or none at the closing quote. -/
def stringChar : Reader (Option Char)
  | [] => .error (.ended .string)
  | '"' :: rest => .ok (none, rest)
  | ['\\'] => .error (.ended .string)
  | '\\' :: 'u' :: rest => do
    let (c, rest) ← unicodeEscape rest
    .ok (some c, rest)
  | '\\' :: c :: rest =>
    match simpleEscape? c with
    | some c => .ok (some c, rest)
    | none => .error .invalidEscape
  | c :: rest => if c.toNat < 0x20 then .error .controlCharacter else .ok (some c, rest)

/-- What follows the opening quote; the characters so far, the latest first. -/
def stringStep (sofar : List Char) : Reader (List Char × Bool) := fun cs => do
  let (c, rest) ← stringChar cs
  match c with
  | none => .ok ((sofar, true), rest)
  | some c => .ok ((c :: sofar, false), rest)

/-- A string, after its opening quote. -/
def string : Reader String := fun cs => do
  let (sofar, rest) ← loop stringStep cs [] cs
  .ok (String.ofList sofar.reverse, rest)

/-! ## Numbers -/

/-- A number as written, by its digits. -/
structure Numeral where
  negative : Bool
  whole : List Char
  fraction : List Char
  exponent : Option Int

def digitValue (c : Char) : Nat := c.toNat - 48

def digitsValue (ds : List Char) : Nat := ds.foldl (fun n c => n * 10 + digitValue c) 0

/-- At least one digit; `atEnd` is the fault of a text that ends before it. -/
def digits1 (atEnd : Fault) : Reader (List Char) := fun cs =>
  match cs with
  | [] => .error atEnd
  | c :: _ =>
    if c.isDigit then .ok (cs.takeWhile Char.isDigit, cs.dropWhile Char.isDigit)
    else .error .invalidNumber

/-- The digits before the point. A zero stands alone. -/
def wholeDigits (atEnd : Fault) : Reader (List Char)
  | '0' :: c :: rest => if c.isDigit then .error .invalidNumber else .ok (['0'], c :: rest)
  | cs => digits1 atEnd cs

def fractionDigits (atEnd : Fault) : Reader (List Char)
  | '.' :: rest => digits1 atEnd rest
  | cs => .ok ([], cs)

/-- The exponent, or none. -/
def exponentPart (atEnd : Fault) : Reader (Option Int)
  | c :: rest =>
    if c = 'e' || c = 'E' then
      match rest with
      | '-' :: rest => do
        let (ds, rest) ← digits1 atEnd rest
        .ok (some (-(digitsValue ds : Int)), rest)
      | '+' :: rest => do
        let (ds, rest) ← digits1 atEnd rest
        .ok (some (digitsValue ds), rest)
      | rest => do
        let (ds, rest) ← digits1 atEnd rest
        .ok (some (digitsValue ds), rest)
    else .ok (none, c :: rest)
  | [] => .ok (none, [])

def unsignedNumeral (atEnd : Fault) (negative : Bool) : Reader Numeral := fun cs => do
  let (whole, rest) ← wholeDigits atEnd cs
  let (fraction, rest) ← fractionDigits atEnd rest
  let (exponent, rest) ← exponentPart atEnd rest
  .ok (⟨negative, whole, fraction, exponent⟩, rest)

def numeral (atEnd : Fault) : Reader Numeral
  | '-' :: rest => unsignedNumeral atEnd true rest
  | cs => unsignedNumeral atEnd false cs

/-- Appends digits to a number as long as it fits 64 bits, and gives the digits that are left. -/
def appendDigits (n : Nat) : List Char → Nat × List Char
  | [] => (n, [])
  | c :: rest =>
    let m := n * 10 + digitValue c
    if m < Nat.pow 2 64 then appendDigits m rest else (n, c :: rest)

/-- An integer that fits stays one, except for a negative zero. Of any other number the digits after those
that fit 64 bits do not count; what stands before the point still counts for the magnitude. -/
def Numeral.number? (x : Numeral) : Option Number :=
  let (n, left) := appendDigits 0 x.whole
  let value : Int := if x.negative then -(n : Int) else n
  if x.fraction.isEmpty && x.exponent.isNone && left.isEmpty && Number.fitsInteger value &&
      !(x.negative && n = 0) then
    some (.int value)
  else
    let (m, dropped) := appendDigits n x.fraction
    let places : Int := x.fraction.length - dropped.length
    (Number.Double.scaled? x.negative m (x.exponent.getD 0 + left.length - places)).map .float

def number : Reader Number := fun cs => do
  let (x, rest) ← numeral (.ended .value) cs
  match x.number? with
  | some n => .ok (n, rest)
  | none => .error .numberOutOfRange

/-! ## Scalars -/

/-- The rest of a literal name. -/
def keyword : List Char → Reader Unit
  | [], cs => .ok ((), cs)
  | _ :: _, [] => .error (.ended .value)
  | k :: ks, c :: rest => if c = k then keyword ks rest else .error .expectedIdent

def startsNumber (c : Char) : Bool := c = '-' || c.isDigit

/-- A value that is neither an array nor an object. -/
def scalar : Reader Json
  | '"' :: rest => do
    let (s, rest) ← string rest
    .ok (.str s, rest)
  | 'n' :: rest => do
    let (_, rest) ← keyword ['u', 'l', 'l'] rest
    .ok (.null, rest)
  | 't' :: rest => do
    let (_, rest) ← keyword ['r', 'u', 'e'] rest
    .ok (.bool true, rest)
  | 'f' :: rest => do
    let (_, rest) ← keyword ['a', 'l', 's', 'e'] rest
    .ok (.bool false, rest)
  | [] => .error (.ended .value)
  | c :: rest =>
    if startsNumber c then do
      let (n, rest) ← number (c :: rest)
      .ok (.num n, rest)
    else .error .expectedValue

/-! ## Containers -/

/-- The text of the next item of a list, or none before the closing bracket. -/
def nextItem (first : Bool) (cs : List Char) : Except Fault (Option (List Char)) :=
  match skipBlanks cs with
  | [] => .error (.ended .list)
  | ']' :: _ => .ok none
  | c :: rest =>
    if first then .ok (some (c :: rest))
    else if c = ',' then
      match skipBlanks rest with
      | [] => .error (.ended .value)
      | ']' :: _ => .error .trailingComma
      | cs => .ok (some cs)
    else .error .expectedListComma

/-- The text of the next key of an object, or none before the closing brace. -/
def nextKey (first : Bool) (cs : List Char) : Except Fault (Option (List Char)) :=
  match skipBlanks cs with
  | [] => .error (.ended .object)
  | '}' :: _ => .ok none
  | c :: rest =>
    if first then .ok (some (c :: rest))
    else if c = ',' then
      match skipBlanks rest with
      | [] => .error (.ended .value)
      | '}' :: _ => .error .trailingComma
      | cs => .ok (some cs)
    else .error .expectedObjectComma

def key : Reader String
  | '"' :: rest => string rest
  | _ => .error .keyNotString

/-- The value of a member, from the colon on. -/
def afterColon {α : Type} (value : Reader α) : Reader α := fun cs =>
  match skipBlanks cs with
  | ':' :: rest => value rest
  | [] => .error (.ended .object)
  | _ => .error .expectedColon

def itemStep {σ : Type} (item : σ → Reader σ) (s : Bool × σ) : Reader ((Bool × σ) × Bool) := fun cs => do
  match ← nextItem s.1 cs with
  | none => .ok ((s, true), (skipBlanks cs).tail)
  | some cs =>
    let (t, rest) ← item s.2 cs
    .ok (((false, t), false), rest)

/-- The items of a list, after its opening bracket. -/
def items {σ : Type} (item : σ → Reader σ) (s : σ) : Reader σ := fun cs => do
  let ((_, t), rest) ← loop (itemStep item) cs (true, s) cs
  .ok (t, rest)

def memberStep {σ : Type} (member : σ → String → Reader σ) (s : Bool × σ) :
    Reader ((Bool × σ) × Bool) := fun cs => do
  match ← nextKey s.1 cs with
  | none => .ok ((s, true), (skipBlanks cs).tail)
  | some cs =>
    let (k, rest) ← key cs
    let (t, rest) ← member s.2 k rest
    .ok (((false, t), false), rest)

/-- The members of an object, after its opening brace. A member is handed over once its key is read, so a key
may be refused before its colon is looked at. -/
def members {σ : Type} (member : σ → String → Reader σ) (s : σ) : Reader σ := fun cs => do
  let ((_, t), rest) ← loop (memberStep member) cs (true, s) cs
  .ok (t, rest)

/-! ## Values -/

/-- Containers may stand inside each other this often. -/
def nestingLimit : Nat := 127

/-- Any value, with at most `nesting` containers inside each other. -/
def value (nesting : Nat) : Reader Json := fun cs =>
  match skipBlanks cs with
  | '[' :: rest =>
    match nesting with
    | 0 => .error .recursionLimit
    | n + 1 => do
      let (vs, rest) ← items (fun vs cs => do
        let (v, rest) ← value n cs
        .ok (v :: vs, rest)) [] rest
      .ok (.arr vs.reverse, rest)
  | '{' :: rest =>
    match nesting with
    | 0 => .error .recursionLimit
    | n + 1 => do
      let (ms, rest) ← members (fun ms k cs => do
        let (v, rest) ← afterColon (value n) cs
        .ok ((k, v) :: ms, rest)) [] rest
      .ok (.obj ms.reverse, rest)
  | cs => scalar cs

/-- A whole text read by `reader`; blanks may follow. -/
def whole {α : Type} (reader : Reader α) (text : String) : Except Fault α := do
  let (v, rest) ← reader text.toList
  if (skipBlanks rest).isEmpty then .ok v else .error .trailingCharacters

def parse (text : String) : Except Fault Json := whole (value nestingLimit) text

/-! ## Expected shapes -/

/-- The fault of a value of the wrong type. A scalar is read to its end first. -/
def mismatch {α : Type} (expected : String) : Reader α
  | '[' :: _ => .error (.invalidType .sequence expected)
  | '{' :: _ => .error (.invalidType .map expected)
  | cs => do
    let (v, _) ← scalar cs
    .error (.invalidType (found v) expected)

/-- A string, where `expected` says what the string is. -/
def stringValue (expected : String) : Reader String := fun cs =>
  match skipBlanks cs with
  | '"' :: rest => string rest
  | cs => mismatch expected cs

end Declgen.Json
