import Declgen.Pass
import Declgen.Render.File

/-!
# Generating a file from a model
-/

namespace Declgen

/-- A file, and the artifacts in it. -/
structure Generated where
  source : String
  artifacts : Artifacts
deriving DecidableEq

/-- What a model is generated with. -/
structure Request where
  model : Model
  hook : Hook
  /-- Qualified names whose identifiers are taken. -/
  reserve : List String
  config : Config

/-- Runs the pass and writes the sorted artifacts. -/
def Request.generate (r : Request) : Except GenerationFault Generated :=
  match Pass.run r.model r.hook r.reserve Allocator.defaultTries with
  | none => .error .noFreeName
  | some p => do
    let artifacts := p.found.sorted
    let source ← Render.file r.config artifacts
    .ok ⟨source, artifacts⟩

end Declgen
