import RtlFlow.Catalog.Generics
import RtlFlow.Classify.Severity
import RtlFlow.Path
import RtlFlow.Tool.Operation

/-! # Settings

What a user configures: the project, its directories, limits on time, severity rules, backends and
precompiled libraries. A backend is configured by templates for the commands of each operation. -/

namespace RtlFlow

/-- **The project.** -/
structure ProjectSettings where
  /-- The name used for archives. -/
  id : Option String := none
  /-- The backend that compiles and simulates. -/
  simulator : Option String := none
  /-- The backend that synthesizes. -/
  synthesizer : Option String := none
  /-- The part to synthesize for. -/
  part : Option String := none
  deriving DecidableEq, Repr, Inhabited

/-- **Directories and files.** -/
structure PathSettings where
  /-- Where compiles and simulations work. -/
  simulationDir : Option Path := none
  /-- Where syntheses work. -/
  synthesisDir : Option Path := none
  /-- Where bundles are written. -/
  archiveDir : Option Path := none
  /-- Where the cache is stored. -/
  cacheFile : Option Path := none
  deriving DecidableEq, Repr, Inhabited

/-- **Limits on time**, in seconds. -/
structure TimeoutSettings where
  /-- For the compile of a file. -/
  compileSecs : Option Nat := none
  /-- For a simulation. -/
  simulateSecs : Option Nat := none
  /-- For a synthesis. -/
  synthesizeSecs : Option Nat := none
  deriving DecidableEq, Repr, Inhabited

/-- **A severity rule** as it is written. -/
structure RuleSettings where
  /-- The pattern. -/
  pattern : String
  /-- The severity of the lines in which it occurs. -/
  severity : Severity
  deriving DecidableEq, Repr, Inhabited

/-- **A script** to be written for a step, as templates. -/
structure ScriptSettings where
  /-- Its path, taken from the work directory. -/
  path : String
  /-- Its lines. -/
  lines : List String
  deriving DecidableEq, Repr, Inhabited

/-- **A command of an operation**, as templates. -/
structure StepSettings where
  /-- The program, where it is not that of the backend. -/
  program : Option String := none
  /-- The arguments. -/
  args : List String := []
  /-- The script that the command needs. -/
  script : Option ScriptSettings := none
  /-- Variables added to the environment, in ascending order. -/
  env : List (String × String) := []
  deriving DecidableEq, Repr, Inhabited

/-- **A backend.** -/
structure BackendSettings where
  /-- The program. -/
  executable : String := ""
  /-- Where the program is looked for first. -/
  installDir : Option Path := none
  /-- The flow to which its constraints belong. -/
  flow : Option String := none
  /-- The operations; without any, those that have commands. -/
  operations : List Operation := []
  /-- The kinds of generics that are taken. -/
  genericKinds : List GenericKind := []
  /-- The constraint flows that are taken besides its own. -/
  constraintFlows : List String := []
  /-- An exit code other than zero is no failure. -/
  ignoreExitCode : Bool := false
  /-- Severity rules. -/
  rules : List RuleSettings := []
  /-- How a generic is written. -/
  genericFormat : Option String := none
  /-- How a precompiled library is written. -/
  includeFormat : Option String := none
  /-- Further arguments by operation, in ascending order. -/
  extraArgs : List (String × String) := []
  /-- The commands that compile a file. -/
  compile : List StepSettings := []
  /-- The commands that simulate. -/
  simulate : List StepSettings := []
  /-- The commands that synthesize. -/
  synthesize : List StepSettings := []
  /-- The artifacts by operation, in ascending order. -/
  artifacts : List (String × List String) := []
  /-- Where a compiled library stands. -/
  libraryDir : Option String := none
  deriving DecidableEq, Repr, Inhabited

/-- The commands of an operation. -/
def BackendSettings.steps (b : BackendSettings) : Operation → List StepSettings
  | .compile => b.compile
  | .simulate => b.simulate
  | .synthesize => b.synthesize

/-- **All that a user configures.** -/
structure Settings where
  /-- The project. -/
  project : ProjectSettings := {}
  /-- Directories and files. -/
  paths : PathSettings := {}
  /-- Limits on time. -/
  timeouts : TimeoutSettings := {}
  /-- Severity rules for all backends. -/
  rules : List RuleSettings := []
  /-- The backends by name, in ascending order. -/
  backends : List (String × BackendSettings) := []
  /-- The precompiled libraries by backend and name, in ascending order. -/
  libraries : List (String × List (String × Path)) := []
  deriving DecidableEq, Repr, Inhabited

end RtlFlow
