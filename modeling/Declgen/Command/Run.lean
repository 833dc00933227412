import Declgen.Command.Arguments
import Declgen.Command.Files
import Declgen.Generate
import Declgen.Model.Load

/-!
# Running the command

The command reads a model, generates a file and writes it, prints it, or compares it with the file that is
there. How files are reached is left open: by the system, or in a tree that is kept as a value. So are the standard
output and the order in which the roots of a model are checked, as a model is a map.
-/

namespace Declgen.Command

/-- What a run reaches. -/
structure Access (m : Type → Type) where
  /-- How many bytes a path has. -/
  size : String → m (Except FileFault Nat)
  read : String → m (Except FileFault String)
  write : String → String → m (Except FileFault Unit)
  /-- Writes to the standard output. Where that fails, the first bytes of the text may be out. -/
  print : String → m (Except FileFault Unit)
  /-- The model of a text. -/
  load : String → Except Model.LoadError Model

/-- Why the command fails. -/
inductive Failure where
  | inaccessible (path : String) (fault : FileFault)
  | tooLarge (path : String) (size : Nat)
  | unreadableInput (path : String) (fault : FileFault)
  | invalidModel (path : String) (error : Model.LoadError)
  | invalidRules (path : String) (fault : Json.Fault)
  | ungenerated (fault : GenerationFault)
  | unreadableOutput (path : String) (fault : FileFault)
  | unwritable (path : String) (fault : FileFault)
  | unprinted (fault : FileFault)
  /-- A message could not be printed. The program stops where it is, as it does not look for that. -/
  | aborted (fault : FileFault)
  /-- The file that is there is not the one that would be generated, or there is none. -/
  | outOfDate (path : String)
deriving DecidableEq

/-- An input has at most this many bytes. -/
def sizeLimit : Nat := 10 * 1024 * 1024

def inTicks (path : String) : String := "'" ++ path ++ "'"

namespace Failure

def message : Failure → String
  | inaccessible path fault => "Cannot access file " ++ inTicks path ++ ": " ++ fault.message
  | tooLarge path size =>
    "Input file " ++ inTicks path ++ " is too large (" ++ toString size ++ " bytes, max " ++
      toString sizeLimit ++ " bytes)"
  | unreadableInput path fault => "Error reading file " ++ inTicks path ++ ": " ++ fault.message
  | invalidModel path error => "Error loading " ++ inTicks path ++ ": " ++ error.message
  | invalidRules path fault => "Invalid override rules " ++ inTicks path ++ ": " ++ fault.message
  | ungenerated fault => "Code generation error: " ++ fault.message
  | unreadableOutput path fault => "Error reading " ++ inTicks path ++ ": " ++ fault.message
  | unwritable path fault => "Error writing " ++ inTicks path ++ ": " ++ fault.message
  | unprinted fault => "Error writing to stdout: " ++ fault.message
  | aborted fault => "failed printing to stdout: " ++ fault.message
  | outOfDate path => path ++ " is out of date; rerun `typegen generate` without --check"

def exitCode : Failure → Nat
  | outOfDate _ => 2
  | aborted _ => 101
  | _ => 1

end Failure

/-! ## Steps -/

variable {m : Type → Type} [Monad m]

/-- A step that may fail, with what its failure means here. -/
def attempt {α ε : Type} (step : m (Except ε α)) (failure : ε → Failure) : ExceptT Failure m α :=
  ExceptT.mk do return (← step).mapError failure

/-- The text of an input. One that is too large is not read. -/
def readInput (a : Access m) (path : String) : ExceptT Failure m String := do
  let size ← attempt (a.size path) (.inaccessible path)
  if sizeLimit < size then throw (.tooLarge path size)
  attempt (a.read path) (.unreadableInput path)

def readModel (a : Access m) (path : String) : ExceptT Failure m Model := do
  let text ← readInput a path
  attempt (pure (a.load text)) (.invalidModel path)

def readRules (a : Access m) (path : Option String) : ExceptT Failure m Rules :=
  match path with
  | none => pure .empty
  | some path => do
    let text ← readInput a path
    attempt (pure (Rules.parse text)) (.invalidRules path)

/-- The default options of a file, with the derives that are asked for. -/
def Options.config (o : Options) : Config :=
  o.derives.foldl Config.withExtraDerive (Config.default.withHeader !o.noHeader)

/-- The text of the file to be generated. -/
def source (a : Access m) (o : Options) : ExceptT Failure m String := do
  let model ← readModel a o.input
  let rules ← readRules a o.overrides
  let generated ← attempt (pure (Request.generate ⟨model, rules.resolve, o.reserve, o.config⟩)) .ungenerated
  return generated.source

def upToDate (path : String) : String := "✓ " ++ path ++ " is up to date\n"

/-- Compares with the file at a path. -/
def compare (a : Access m) (path text : String) : ExceptT Failure m Unit := do
  match ← ExceptT.lift (a.read path) with
  | .ok existing =>
    if existing = text then attempt (a.print (upToDate path)) .aborted else throw (.outOfDate path)
  | .error .notFound => throw (.outOfDate path)
  | .error fault => throw (.unreadableOutput path fault)

/-! ## The command -/

def Options.run (a : Access m) (o : Options) : ExceptT Failure m Unit := do
  let text ← source a o
  match o.output with
  | none => attempt (a.print text) .unprinted
  | some path => if o.check then compare a path text else attempt (a.write path text) (.unwritable path)

def exitCode {α : Type} : Except Failure α → Nat
  | .ok _ => 0
  | .error failure => failure.exitCode

/-! ## In a tree -/

/-- The files in a state `σ`, and what has been printed. -/
structure World (σ : Type) where
  files : σ
  printed : ByteArray

/-- Files in a tree that is kept as a value. What is printed gets out. -/
def inTree : Access (StateM (World Files)) where
  size path := return (← get).files.size path
  read path := return (← get).files.read path
  write path text := do
    let world ← get
    match world.files.write path text.toUTF8 with
    | .ok files =>
      set { world with files }
      return .ok ()
    | .error fault => return .error fault
  print text := do
    modify fun world => { world with printed := world.printed ++ text.toUTF8 }
    return .ok ()
  load := Model.load

/-- Why a run fails, and what it has printed by then. -/
structure Halt where
  failure : Failure
  printed : String

def Halt.message (h : Halt) : String := h.failure.message

/-- A run as it ends, with what it has printed read as text. -/
def ending (result : Except Failure Unit) (printed : ByteArray) : Except Halt String :=
  let printed := (String.fromUTF8? printed).getD ""
  match result with
  | .ok () => .ok printed
  | .error failure => .error ⟨failure, printed⟩

/-- Runs the command in a tree: what it prints, with why it fails if it does, and the tree after it. -/
def Options.runIn (o : Options) (files : Files) : Except Halt String × Files :=
  let (result, world) := (o.run inTree).run.run ⟨files, .empty⟩
  (ending result world.printed, world.files)

/-- What the caller of a run sees of it. -/
structure Report where
  stdout : String
  stderr : String
  exitCode : Nat
deriving DecidableEq

def report : Except Halt String → Report
  | .ok printed => ⟨printed, "", 0⟩
  | .error halt => ⟨halt.printed, halt.message ++ "\n", halt.failure.exitCode⟩

end Declgen.Command
