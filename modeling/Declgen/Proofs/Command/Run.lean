import Declgen.Proofs.Command.Looks
import Declgen.Proofs.Json.Reader

/-!
# Runs on a disk

A run looks first, and it writes or prints last. So a run that fails has written nothing, and it has printed something
only if it is the printing that fails.
-/

namespace Declgen.Command

variable {σ κ : Type} {d : Disk σ κ} {out : Outlet} {load : String → Except Model.LoadError Model} {s : σ} {w : World σ}
  {o : Options} {path text : String}

/-! ## Steps -/

def World.print (w : World σ) (out : Outlet) (text : String) : World σ :=
  { w with printed := w.printed ++ out.part text }

/-- What comes of comparing a text with what is read, before anything is printed of it. -/
def verdict (path text : String) : Except FileFault String → Except Failure Unit
  | .ok existing => if existing = text then .ok () else .error (.outOfDate path)
  | .error .notFound => .error (.outOfDate path)
  | .error fault => .error (.unreadableOutput path fault)

namespace Disk

def runTo (d : Disk σ κ) (out : Outlet) (load : String → Except Model.LoadError Model) (o : Options) (s : σ) :
    Except Failure Unit × World σ :=
  (o.run (d.access out load)).run.run (.of s)

/-- A run from which all that is printed gets out. -/
def run (d : Disk σ κ) (load : String → Except Model.LoadError Model) (o : Options) (s : σ) :
    Except Failure Unit × World σ :=
  d.runTo .sound load o s

end Disk

/-- How a run ends: it changes a file only when it is to write one and succeeds, and then the file that its output
leads to has the text that came from the inputs as they were. -/
structure Settles (d : Disk σ κ) (out : Outlet) (load : String → Except Model.LoadError Model) (o : Options) (s : σ)
    (result : Except Failure Unit) (after : World σ) : Prop where
  failed : exitCode result ≠ 0 → after.files = s
  unwritten : o.output = none ∨ o.check = true → after.files = s
  written : ∀ path, o.output = some path → o.check = false → exitCode result = 0 →
    after.printed = .empty ∧ ∃ text, d.source load o s = .ok text ∧ d.Wrote s path text after.files
  printed : ∀ text, o.output = none → d.source load o s = .ok text →
    result = (out.result text).mapError .unprinted ∧ after.printed = out.part text
  refused : ∀ failure, d.source load o s = .error failure → result = .error failure
  /-- Where a write is not cut short, no failure prints anything. -/
  silent : out.Whole → exitCode result ≠ 0 → after.printed = .empty
  /-- Where it may be, no failure but that of the write itself does. -/
  cut : ∀ failure, result = .error failure → after.printed = .empty ∨ ∃ text fault, out.fault? text = some fault ∧
    (failure = .unprinted fault ∨ failure = .aborted fault) ∧ after.printed = out.part text

end Declgen.Command
