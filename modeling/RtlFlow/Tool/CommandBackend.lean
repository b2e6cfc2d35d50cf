import RtlFlow.Host.Programs
import RtlFlow.Settings.Basic
import RtlFlow.Tool.Backend
import RtlFlow.Tool.Template

/-! # Configured backends

A backend that follows its settings: the commands of an operation are the templates of its steps,
expanded with the values of a request. Its own severity rules come first, then those of all
backends, then the default rules. -/

namespace RtlFlow

open RtlFlow.Text.Unicode

namespace CommandBackend

/-- How a generic is written where the settings do not tell. -/
def defaultGenericFormat : String := "-g\x7bname\x7d=\x7bvalue\x7d"

/-- How a precompiled library is written where the settings do not tell. -/
def defaultIncludeFormat : String := "-L\x7bname\x7d"

/-- The arguments for generics. -/
def genericArgs (s : BackendSettings) (g : Generics) : List String :=
  let format := s.genericFormat.getD defaultGenericFormat
  g.entries.map fun (name, v) =>
    Text.replaceAll (Text.replaceAll format (Template.placeholder "name") name)
      (Template.placeholder "value") v.render

/-- The arguments for precompiled libraries. -/
def includeArgs (s : BackendSettings) (includes : List IncludePath) : List String :=
  let format := s.includeFormat.getD defaultIncludeFormat
  includes.map fun i =>
    Text.replaceAll (Text.replaceAll format (Template.placeholder "name") i.name)
      (Template.placeholder "path") i.path.text

/-- The further arguments of an operation: those of the backend, or else those of the file. -/
def extraArgs (s : BackendSettings) (o : Operation) (ofFile : Option String) : List String :=
  match (Table.get? Table.textBefore o.keyword s.extraArgs).or ofFile with
  | some args => Text.words args
  | none => []

/-- **What the expansion of templates needs to know of a backend.** -/
structure Context where
  /-- The name of the backend. -/
  name : String
  /-- Its settings. -/
  settings : BackendSettings
  /-- The program of its commands. -/
  program : String

/-- The script of a step. -/
def scriptOf (c : Context) (workDir : Path) (values : Template.Values) (s : ScriptSettings) :
    Except ToolError ScriptFile := do
  let lines ← Template.expandAll (Template.expandLine c.name values) s.lines
  let path ← Template.expandScalars c.name values s.path
  return ⟨workDir.child path, "\n".intercalate lines ++ "\n"⟩

/-- The command of a step, with its script. -/
def commandOf (c : Context) (workDir : Path) (values : Template.Values) (s : StepSettings) :
    Except ToolError (ToolCommand × Option ScriptFile) := do
  let script ←
    match s.script with
    | some script => some <$> scriptOf c workDir values script
    | none => pure none
  let args ← Template.expandAll (Template.expandArgument c.name values) s.args
  return (⟨s.program.getD c.program, args, workDir, s.env⟩, script)

/-- The artifacts of an operation. One whose template asks for a value that is not there is left
out. -/
def artifactsOf (c : Context) (o : Operation) (workDir : Path) (values : Template.Values) :
    List Path :=
  ((Table.get? Table.textBefore o.keyword c.settings.artifacts).getD []).filterMap fun s =>
    ((Template.expandScalars c.name values s).toOption).map workDir.child

/-- **The invocation for an operation** with the values of a request. -/
def invocationFor (c : Context) (o : Operation) (workDir : Path) (values : Template.Values) :
    Except ToolError Invocation := do
  let commands ← (c.settings.steps o).mapM (commandOf c workDir values)
  return { steps := commands.map (·.1), scripts := commands.filterMap (·.2),
           artifacts := artifactsOf c o workDir values }

/-- The paths of files as texts. -/
def pathTexts (files : List SourceFile) : List String := files.map (·.path.text)

/-- The values of a request to compile. -/
def compileValues (c : Context) (r : CompileRequest) : Template.Values where
  scalar
    | .file => some r.file.path.text
    | .library => some r.file.library
    | .workDir => some r.workDir.text
    | _ => none
  items
    | .files => [r.file.path.text]
    | .generics => genericArgs c.settings r.file.generics
    | .includes => includeArgs c.settings r.includes
    | .extra =>
      extraArgs c.settings .compile (r.file.toolArguments? c.name Operation.compile.keyword)
    | .constraints => []

/-- The values of a request to simulate. -/
def simulateValues (c : Context) (r : SimulateRequest) : Template.Values where
  scalar
    | .library => some r.library
    | .entity => some r.entity
    | .workDir => some r.workDir.text
    | .duration => r.duration.map Duration.simTime
    | _ => none
  items
    | .files => pathTexts r.files
    | .generics => genericArgs c.settings r.generics
    | .includes => includeArgs c.settings r.includes
    | .extra => extraArgs c.settings .simulate none
    | .constraints => []

/-- The values of a request to synthesize. -/
def synthesizeValues (c : Context) (r : SynthesizeRequest) : Template.Values where
  scalar
    | .library => some r.library
    | .entity => some r.entity
    | .workDir => some r.workDir.text
    | .part => r.part
    | _ => none
  items
    | .files => pathTexts r.files
    | .constraints => r.constraints.map (·.path.text)
    | .generics => genericArgs c.settings r.generics
    | .extra => extraArgs c.settings .synthesize none
    | .includes => []

/-- The directory of a compiled library, if the settings tell it. -/
def libraryDir (c : Context) (library : String) (workDir : Path) : Option Path := do
  let template ← c.settings.libraryDir
  let values : Template.Values :=
    { scalar := fun
        | .library => some library
        | .workDir => some workDir.text
        | _ => none
      items := fun _ => [] }
  let dir ← (Template.expandScalars c.name values template).toOption
  return workDir.child dir

/-- The operations that settings offer: those that are listed, or else those that have commands. -/
def operationsOf (s : BackendSettings) : List Operation :=
  if s.operations.isEmpty then Operation.all.filter fun o => !(s.steps o).isEmpty
  else s.operations

/-- **Why settings make no backend**, apart from their severity rules. -/
def fault? (s : BackendSettings) : Option String :=
  if (Text.trim s.executable).isEmpty then some "no executable configured"
  else
    match (operationsOf s).find? fun o => (s.steps o).isEmpty with
    | some o => some ("operation '" ++ o.keyword ++ "' has no steps")
    | none =>
      match s.artifacts.find? fun (key, _) => (Operation.ofKeyword? key).isNone with
      | some (key, _) => some ("unknown artifact operation '" ++ key ++ "'")
      | none => none

/-- The rules of a list of rules as they are written. -/
def rulesOf (rules : List RuleSettings) : Except ConfigError (List SeverityRule) :=
  SeverityRule.ofPatterns (rules.map fun r => (r.pattern, r.severity))

end CommandBackend

open CommandBackend in
/-- **The backend that settings configure**, on a machine with the file tree `t` and a search path
for programs; `shared` are the severity rules of all backends. -/
def Backend.ofSettings (t : FileTree) (searchPath name : String) (s : BackendSettings)
    (shared : List SeverityRule) : Except ConfigError Backend := do
  match fault? s with
  | some message => throw (.invalidBackend name message)
  | none =>
    let rules := (← rulesOf s.rules) ++ shared ++ (← defaultRules)
    let program := Host.findProgram t searchPath s.executable s.installDir
    let c : Context := ⟨name, s, (program.map (·.text)).getD s.executable⟩
    return {
      name
      executable := s.executable
      flow := s.flow.map lowercase
      capabilities := .ofLists (operationsOf s) s.constraintFlows s.genericKinds
      classifier := ⟨rules, s.ignoreExitCode⟩
      installed := program.isSome
      libraryDir := CommandBackend.libraryDir c
      compileInvocation := fun r => invocationFor c .compile r.workDir (compileValues c r)
      simulateInvocation := fun r => invocationFor c .simulate r.workDir (simulateValues c r)
      synthesizeInvocation := fun r =>
        invocationFor c .synthesize r.workDir (synthesizeValues c r) }

end RtlFlow
