import Declgen.Json.Reader

/-!
# Passing over a value

A value that nobody asks for is only checked for its shape: it may nest to any depth, its numbers have no
range, and its strings may hold half a surrogate pair.
-/

namespace Declgen.Json

/-- Passes over one character of a string; `true` after the closing quote. -/
def skipStringChar : Reader Bool
  | [] => .error (.ended .string)
  | '"' :: rest => .ok (true, rest)
  | ['\\'] => .error (.ended .string)
  | '\\' :: 'u' :: rest => do
    let (_, rest) ← hexEscape rest
    .ok (false, rest)
  | '\\' :: c :: rest => if (simpleEscape? c).isSome then .ok (false, rest) else .error .invalidEscape
  | c :: rest => if c.toNat < 0x20 then .error .controlCharacter else .ok (false, rest)

def skipString : Reader Unit := fun cs =>
  loop (fun _ cs => do
    let (last, rest) ← skipStringChar cs
    .ok (((), last), rest)) cs () cs

inductive Container where
  | list | object
deriving DecidableEq

def Container.close : Container → Char
  | .list => ']'
  | .object => '\x7d'

def Container.ended : Container → Fault
  | .list => .ended .list
  | .object => .ended .object

def Container.expectedComma : Container → Fault
  | .list => .expectedListComma
  | .object => .expectedObjectComma

/-- What stands before the next value: in an object a key and its colon. -/
def skipLead : Container → Reader Unit
  | .list, cs => .ok ((), cs)
  | .object, cs =>
    match skipBlanks cs with
    | [] => .error (.ended .object)
    | '"' :: rest => do
      let (_, rest) ← skipString rest
      match skipBlanks rest with
      | ':' :: rest => .ok ((), rest)
      | [] => .error (.ended .object)
      | _ => .error .expectedColon
    | _ => .error .keyNotString

/-- Goes on after a value, or after an opening bracket if `fresh`, with the open containers, the innermost
first: to the next value, out of the container, or to the end. -/
def skipOn : List Char → Bool → List Container → Reader (List Container)
  | _, _, [] => fun cs => .ok ([], cs)
  | budget, fresh, k :: outer => fun cs =>
    match skipBlanks cs with
    | [] => .error k.ended
    | c :: rest =>
      if c = k.close then
        match budget with
        | [] => .error k.ended
        | _ :: budget => skipOn budget false outer rest
      else if fresh then do
        let (_, rest) ← skipLead k (c :: rest)
        .ok (k :: outer, rest)
      else if c = ',' then do
        let (_, rest) ← skipLead k rest
        .ok (k :: outer, rest)
      else .error k.expectedComma

/-- One value or one opening bracket, and what follows it; `true` when no container is open. -/
def skipStep (open_ : List Container) : Reader (List Container × Bool) := fun cs => do
  let ((fresh, open_), rest) ← match skipBlanks cs with
    | '[' :: rest => .ok ((true, .list :: open_), rest)
    | '{' :: rest => .ok ((true, .object :: open_), rest)
    | '"' :: rest => do
      let (_, rest) ← skipString rest
      .ok ((false, open_), rest)
    | c :: rest =>
      if startsNumber c then do
        let (_, rest) ← numeral .invalidNumber (c :: rest)
        .ok ((false, open_), rest)
      else do
        let (_, rest) ← scalar (c :: rest)
        .ok ((false, open_), rest)
    | [] => (.error (.ended .value) : Except Fault ((Bool × List Container) × List Char))
  let (open_, rest) ← skipOn rest fresh open_ rest
  .ok ((open_, open_.isEmpty), rest)

def skip : Reader Unit := fun cs => do
  let (_, rest) ← loop skipStep cs [] cs
  .ok ((), rest)

end Declgen.Json
