import RtlFlow.Catalog.Source
import RtlFlow.Duration

/-! # Requests

What a backend is asked to do, with all that it may need to do it. -/

namespace RtlFlow

/-- **A precompiled library** with the place where it stands. -/
structure IncludePath where
  /-- The name of the library. -/
  name : String
  /-- Where it stands. -/
  path : Path
  deriving DecidableEq, Repr, Inhabited

/-- **A request to compile a file.** -/
structure CompileRequest where
  /-- The file. -/
  file : SourceFile
  /-- The directory in which the tool works. -/
  workDir : Path
  /-- Precompiled libraries. -/
  includes : List IncludePath
  deriving DecidableEq, Repr, Inhabited

/-- **A request to simulate a design unit.** -/
structure SimulateRequest where
  /-- The library of the unit. -/
  library : String
  /-- The unit. -/
  entity : String
  /-- The generics of the unit. -/
  generics : Generics
  /-- The time to be simulated; without it the simulation ends by itself. -/
  duration : Option Duration
  /-- The files of the design in compile order. -/
  files : List SourceFile
  /-- Precompiled libraries. -/
  includes : List IncludePath
  /-- The directory in which the tool works. -/
  workDir : Path
  deriving DecidableEq, Repr, Inhabited

/-- **A request to synthesize a design unit.** -/
structure SynthesizeRequest where
  /-- The library of the unit. -/
  library : String
  /-- The unit. -/
  entity : String
  /-- The generics of the unit. -/
  generics : Generics
  /-- The constraints files. -/
  constraints : List ConstraintsFile
  /-- The part to synthesize for. -/
  part : Option String
  /-- The files of the design in compile order. -/
  files : List SourceFile
  /-- The directory in which the tool works. -/
  workDir : Path
  deriving DecidableEq, Repr, Inhabited

end RtlFlow
