/-!
# Arguments of the command line

There is one command, `generate`, with a model to read and options. A value may be attached to its option or
follow it as a word of its own; such a word is looked at once the next one that counts has come, so of two
mistakes the one that is settled first is reported.
-/

namespace Declgen.Command

/-- What the command is given. -/
structure Options where
  input : String
  /-- Where the file is written to, if not to the standard output. -/
  output : Option String
  reserve : List String
  overrides : Option String
  noHeader : Bool
  derives : List String
  check : Bool
deriving DecidableEq

/-- Why arguments are no command to run. -/
inductive Usage where
  | help
  | version
  /-- There are no arguments. -/
  | nothingGiven
  | unknownCommand
  | unknownArgument
  | missingArgument
  /-- A value is missing, or empty where a path is expected. -/
  | invalidValue
  /-- What may be given once is given again. -/
  | repeated
  /-- A switch has a value. -/
  | unexpectedValue
deriving DecidableEq

/-- Answering a question is no failure. -/
def Usage.exitCode : Usage → Nat
  | .help | .version => 0
  | _ => 2

/-! ## Words -/

/-- A word by its form. -/
inductive Word where
  /-- All words that follow are values. -/
  | escape
  | long (name : String) (value : Option String)
  /-- A letter and what is attached to it. -/
  | short (letter : Char) (rest : List Char)
  | value (text : String)
deriving DecidableEq

def Word.ofChars : List Char → Word
  | ['-', '-'] => .escape
  | '-' :: '-' :: cs =>
    .long (String.ofList (cs.takeWhile (· != '=')))
      (match cs.dropWhile (· != '=') with
        | [] => none
        | _ :: text => some (String.ofList text))
  | '-' :: c :: cs => .short c cs
  | cs => .value (String.ofList cs)

def Word.of (s : String) : Word := .ofChars s.toList

/-! ## Parameters -/

/-- What takes a value. -/
inductive Parameter where
  | input | output | reserve | overrides | derive
deriving DecidableEq

def Parameter.ofName? (name : String) : Option Parameter :=
  match name with
  | "output" => some .output
  | "reserve" => some .reserve
  | "overrides" => some .overrides
  | "derive" => some .derive
  | _ => none

/-- What is on or off. -/
inductive Switch where
  | noHeader | check
deriving DecidableEq

def Switch.ofName? (name : String) : Option Switch :=
  match name with
  | "no-header" => some .noHeader
  | "check" => some .check
  | _ => none

/-! ## Reading -/

/-- What has been read so far. -/
structure Given where
  input : Option String
  output : Option String
  overrides : Option String
  reserve : List String
  derives : List String
  noHeader : Bool
  check : Bool
  /-- A parameter whose value has not been looked at or not been met. -/
  pending : Option (Parameter × Option String)
  /-- A word without a name has been met. -/
  positional : Bool
  /-- The escape has been met. -/
  escaped : Bool
deriving DecidableEq

namespace Given

def start : Given := ⟨none, none, none, [], [], false, false, none, false, false⟩

/-- A path that is given once. -/
def once (slot : Option String) (path : String) : Except Usage (Option String) :=
  if slot.isSome then .error .repeated else if path.isEmpty then .error .invalidValue else .ok (some path)

def assign (g : Given) (p : Parameter) (value : String) : Except Usage Given :=
  match p with
  | .input => do
    let input ← once g.input value
    .ok { g with input }
  | .output => do
    let output ← once g.output value
    .ok { g with output }
  | .overrides => do
    let overrides ← once g.overrides value
    .ok { g with overrides }
  | .reserve => .ok { g with reserve := g.reserve ++ [value] }
  | .derive => .ok { g with derives := g.derives ++ [value] }

/-- Takes in what is pending. -/
def settle (g : Given) : Except Usage Given :=
  match g.pending with
  | none => .ok g
  | some (_, none) => .error .invalidValue
  | some (p, some value) => assign { g with pending := none } p value

def turnOn (g : Given) (s : Switch) : Except Usage Given :=
  match s with
  | .noHeader => if g.noHeader then .error .repeated else .ok { g with noHeader := true }
  | .check => if g.check then .error .repeated else .ok { g with check := true }

/-- An option by name, with its value if that is attached. -/
def parameter (g : Given) (p : Parameter) (attached : Option String) : Except Usage Given := do
  let g ← g.settle
  match attached with
  | some value => g.assign p value
  | none => .ok { g with pending := some (p, none) }

def question (g : Given) : Except Usage Given := do
  let _ ← g.settle
  .error .help

def long (g : Given) (name : String) (value : Option String) : Except Usage Given :=
  match Parameter.ofName? name, Switch.ofName? name with
  | some p, _ => g.parameter p value
  | none, some s =>
    if value.isSome then .error .unexpectedValue
    else do
      let g ← g.settle
      g.turnOn s
  | none, none =>
    if name != "help" then .error .unknownArgument
    else if value.isSome then .error .unexpectedValue
    else g.question

/-- A sign of equality before an attached value is dropped. -/
def attachedValue : List Char → Option String
  | [] => none
  | '=' :: value => some (String.ofList value)
  | value => some (String.ofList value)

def short (g : Given) (letter : Char) (rest : List Char) : Except Usage Given :=
  if letter = 'o' then g.parameter .output (attachedValue rest)
  else if letter = 'h' then g.question
  else .error .unknownArgument

/-- A word that is a value by its place. -/
def plain (g : Given) (text : String) : Except Usage Given :=
  if g.positional then .error .unknownArgument
  else do
    let g ← g.settle
    .ok { g with pending := some (.input, some text), positional := true }

def step (g : Given) (word : String) : Except Usage Given :=
  if g.escaped then g.plain word
  else
    match Word.of word, g.pending with
    | .escape, _ => .ok { g with escaped := true }
    | .long name value, _ => g.long name value
    | .short letter rest, _ => g.short letter rest
    | .value text, some (p, none) => .ok { g with pending := some (p, some text) }
    | .value text, _ => g.plain text

/-- A model has to be given, and an output to check. -/
def options (g : Given) : Except Usage Options :=
  match g.input with
  | none => .error .missingArgument
  | some input =>
    if g.check && g.output.isNone then .error .missingArgument
    else .ok ⟨input, g.output, g.reserve, g.overrides, g.noHeader, g.derives, g.check⟩

end Given

/-- The arguments of `generate`. -/
def Options.parse (words : List String) : Except Usage Options := do
  let g ← words.foldlM Given.step .start
  let g ← g.settle
  g.options

/-! ## Commands -/

def commands : List String := ["generate", "help"]

/-- What `help` is asked about. -/
def aboutHelp : List String → Usage
  | [] => .help
  | [command] => if commands.contains command then .help else .unknownCommand
  | _ => .unknownCommand

/-- A word before any command. -/
def leading (word : String) : Usage :=
  match Word.of word with
  | .long name value =>
    if name != "help" && name != "version" then .unknownArgument
    else if value.isSome then .unexpectedValue
    else if name = "help" then .help else .version
  | .short letter _ => if letter = 'h' then .help else if letter = 'V' then .version else .unknownArgument
  | .escape | .value _ => .unknownCommand

/-- The options of a command line. -/
def parse : List String → Except Usage Options
  | [] => .error .nothingGiven
  | ["--"] => .error .nothingGiven
  | "--" :: word :: _ => .error (if commands.contains word then .unknownArgument else .unknownCommand)
  | "generate" :: words => Options.parse words
  | "help" :: words => .error (aboutHelp words)
  | word :: _ => .error (leading word)

end Declgen.Command
