import RtlFlow.Json.Basic
import RtlFlow.Settings.Basic

/-! # Settings as data

All settings as a JSON value, with `null` for what is not configured. -/

namespace RtlFlow

namespace Json

/-- A list of texts as a value. -/
def ofTexts (xs : List String) : Json := .list (xs.map .text)

/-- A text that may be absent as a value. -/
def ofText? (s : Option String) : Json := ofOption (s.map .text)

/-- A path that may be absent as a value. -/
def ofPath? (p : Option Path) : Json := ofText? (p.map (·.text))

/-- A natural number that may be absent as a value. -/
def ofNat? (n : Option Nat) : Json := ofOption (n.map nat)

/-- A table as a value. -/
def ofTable {α : Type} (f : α → Json) (table : List (String × α)) : Json :=
  .object (table.map fun (k, v) => (k, f v))

end Json

open Json

/-- The project section as a value. -/
def ProjectSettings.toJson (s : ProjectSettings) : Json :=
  .object [("id", ofText? s.id), ("simulator", ofText? s.simulator),
    ("synthesizer", ofText? s.synthesizer), ("part", ofText? s.part)]

/-- The section of directories and files as a value. -/
def PathSettings.toJson (s : PathSettings) : Json :=
  .object [("simulation_dir", ofPath? s.simulationDir), ("synthesis_dir", ofPath? s.synthesisDir),
    ("archive_dir", ofPath? s.archiveDir), ("cache_file", ofPath? s.cacheFile)]

/-- The section of limits on time as a value. -/
def TimeoutSettings.toJson (s : TimeoutSettings) : Json :=
  .object [("compile_secs", ofNat? s.compileSecs), ("simulate_secs", ofNat? s.simulateSecs),
    ("synthesize_secs", ofNat? s.synthesizeSecs)]

/-- A severity rule as a value. -/
def RuleSettings.toJson (s : RuleSettings) : Json :=
  .object [("pattern", .text s.pattern), ("severity", .text s.severity.keyword)]

/-- A script as a value. -/
def ScriptSettings.toJson (s : ScriptSettings) : Json :=
  .object [("path", .text s.path), ("lines", ofTexts s.lines)]

/-- A command as a value. -/
def StepSettings.toJson (s : StepSettings) : Json :=
  .object [("program", ofText? s.program), ("args", ofTexts s.args),
    ("script", ofOption (s.script.map ScriptSettings.toJson)), ("env", ofTable .text s.env)]

/-- A backend section as a value. -/
def BackendSettings.toJson (s : BackendSettings) : Json :=
  let steps (xs : List StepSettings) : Json := .list (xs.map StepSettings.toJson)
  .object [("executable", .text s.executable), ("install_dir", ofPath? s.installDir),
    ("flow", ofText? s.flow), ("operations", ofTexts (s.operations.map Operation.keyword)),
    ("generic_kinds", ofTexts (s.genericKinds.map GenericKind.keyword)),
    ("constraint_flows", ofTexts s.constraintFlows), ("ignore_exit_code", .bool s.ignoreExitCode),
    ("rules", .list (s.rules.map RuleSettings.toJson)),
    ("generic_format", ofText? s.genericFormat), ("include_format", ofText? s.includeFormat),
    ("extra_args", ofTable .text s.extraArgs), ("compile", steps s.compile),
    ("simulate", steps s.simulate), ("synthesize", steps s.synthesize),
    ("artifacts", ofTable ofTexts s.artifacts), ("library_dir", ofText? s.libraryDir)]

/-- **All settings as a value.** -/
def Settings.toJson (s : Settings) : Json :=
  .object [("project", s.project.toJson), ("paths", s.paths.toJson),
    ("timeouts", s.timeouts.toJson), ("rules", .list (s.rules.map RuleSettings.toJson)),
    ("backends", ofTable BackendSettings.toJson s.backends),
    ("libraries", ofTable (ofTable fun p => .text p.text) s.libraries)]

end RtlFlow
