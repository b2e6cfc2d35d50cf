import RtlFlow.Build.Outcome
import RtlFlow.Build.Registry
import RtlFlow.Build.Options
import RtlFlow.Cache.Basic
import RtlFlow.Plan.Basic
import RtlFlow.Settings.Document
import RtlFlow.Tool.Invocation

/-! # Reports

What a build works with and what comes of it as JSON values, for programs that read them. -/

namespace RtlFlow

open Json

/-- A list of paths as a value. -/
def Json.ofPaths (ps : List Path) : Json := ofTexts (ps.map (·.text))

/-- A duration as a value: its seconds and nanoseconds. -/
def Duration.toJson (d : Duration) : Json := .list [.nat d.seconds, .nat d.nanos]

/-- A duration that may be absent as a value. -/
def Json.ofDuration? (d : Option Duration) : Json := ofOption (d.map Duration.toJson)

/-- Generics as a value: name, kind and text of each. -/
def Generics.toJson (g : Generics) : Json :=
  .list (g.entries.map fun (name, v) => ofTexts [name, v.kind.keyword, v.render])

/-- A source file as a value. -/
def SourceFile.toJson (f : SourceFile) : Json :=
  .object [("path", .text f.path.text), ("library", .text f.library), ("kind", .text f.kind.label),
    ("synthesize", .bool f.synthesize), ("generics", f.generics.toJson),
    ("depends_on", ofTexts f.dependsOn),
    ("tool_args", .list (f.toolArgs.map fun ((tool, stage), args) => ofTexts [tool, stage, args])),
    ("name", .text f.displayName)]

/-- A build plan as a value. -/
def BuildPlan.toJson (p : BuildPlan) : Json :=
  .object [("libraries", ofTexts p.libraries),
    ("units", .list (p.units.map fun u =>
      .list [.text u.library, ofPaths (u.files.map (·.path))])),
    ("files", ofTexts (p.files.map (·.displayName))), ("len", .nat p.size),
    ("empty", .bool p.isEmpty)]

/-- The text of an action. -/
def BuildAction.text : BuildAction → String
  | .skip => "skip"
  | .build r => "build: " ++ r.text

/-- A plan with decisions as a value. -/
def FilteredPlan.toJson (p : FilteredPlan) : Json :=
  .object [("entries", .list (p.entries.map fun e =>
      .list [.text e.file.path.text, .text e.action.text, ofText? e.fingerprint])),
    ("build_count", .nat p.toBuild.length), ("skipped", .nat p.skipped.length)]

/-- The entries of a cache as a value. -/
def CacheContent.rows (c : CacheContent) : Json :=
  .list (c.toList.map fun (backend, p, e) => .list [.text backend, .text p.text,
    .text e.fingerprint, .text e.outcome.keyword, .nat e.generation.toNat])

/-- The name of a source of messages. -/
def MessageSource.keyword : MessageSource → String
  | .stdout => "stdout"
  | .stderr => "stderr"
  | .status => "status"

/-- The name of a verdict. -/
def Verdict.keyword : Verdict → String
  | .passed => "passed"
  | .passedWithWarnings => "passed_with_warnings"
  | .failed => "failed"

/-- A message as a value. -/
def Message.toJson (m : Message) : Json :=
  ofTexts [m.severity.keyword, m.source.keyword, m.line]

/-- A classified run as a value. -/
def Classification.toJson (c : Classification) : Json :=
  .object [("verdict", .text c.verdict.keyword), ("success", .bool c.verdict.isSuccess),
    ("messages", .list (c.messages.map Message.toJson)),
    ("at_least", .list (Severity.all.map fun s => .nat (c.atLeast s).length))]

/-- The way in which a run ended as a value. -/
def ToolStatus.toJson : ToolStatus → Json
  | .exited code => .int code
  | .timedOut => .text "timed_out"
  | .cancelled => .text "cancelled"

/-- What a run gave as a value, with the time that it took or without. -/
def ToolResult.toJson (timed : Bool) (r : ToolResult) : Json :=
  .object [("status", r.status.toJson), ("exit_code", ofOption (r.exitCode?.map int)),
    ("was_cancelled", .bool r.wasCancelled), ("stdout", .text r.stdout), ("stderr", .text r.stderr),
    ("elapsed", if timed then r.elapsed.toJson else .null)]

/-- A command as a value. -/
def ToolCommand.toJson (c : ToolCommand) : Json :=
  .object [("program", .text c.program), ("args", ofTexts c.args), ("cwd", .text c.cwd.text),
    ("env", ofTable .text c.env), ("display", .text c.line)]

/-- An invocation as a value. -/
def Invocation.toJson (i : Invocation) : Json :=
  .object [("program", .text i.program), ("steps", .list (i.steps.map ToolCommand.toJson)),
    ("scripts", .list (i.scripts.map fun s =>
      .object [("path", .text s.path.text), ("content", .text s.content)])),
    ("artifacts", ofPaths i.artifacts), ("timeout", ofDuration? i.timeout)]

/-- A backend as a value. -/
def Backend.toJson (b : Backend) : Json :=
  .object [("name", .text b.name), ("executable", .text b.executable), ("flow", ofText? b.flow),
    ("installed", .bool b.installed),
    ("operations", ofTexts (b.capabilities.operations.map Operation.keyword)),
    ("constraint_flows", ofTexts b.capabilities.constraintFlows),
    ("generic_kinds", ofTexts (b.capabilities.genericKinds.map GenericKind.keyword)),
    ("native_generics", .bool b.capabilities.nativeGenerics),
    ("rules", .nat b.classifier.rules.length)]

/-- The options of a project as a value. -/
def BuildOptions.toJson (o : BuildOptions) : Json :=
  .object [("project_id", .text o.projectId), ("simulator", ofText? o.simulator),
    ("synthesizer", ofText? o.synthesizer), ("part", ofText? o.part),
    ("simulation_dir", .text o.simulationDir.text), ("synthesis_dir", .text o.synthesisDir.text),
    ("archive_dir", .text o.archiveDir.text),
    ("timeouts", .list ([o.compileTimeout, o.simulateTimeout, o.synthesizeTimeout].map
      ofDuration?)),
    ("includes", ofTable (fun libraries => .list (libraries.map fun i =>
      ofTexts [i.name, i.path.text])) o.includes)]

/-- An outcome as a value, apart from what it tells of the archive and of errors. -/
def OperationOutcome.members (timed : Bool) (o : OperationOutcome) : List (String × Json) :=
  [("succeeded", .bool o.succeeded), ("state", .text o.state.keyword),
    ("failed_in", ofText? (o.failedIn.map BuildState.keyword)),
    ("transitions", ofTexts (o.transitions.map BuildState.keyword)),
    ("backend", ofText? o.backend), ("compiled", ofPaths o.compiled),
    ("skipped", ofPaths o.skipped), ("messages", .list (o.messages.map Message.toJson)),
    ("tool_result", ofOption (o.toolResult.map (ToolResult.toJson timed)))]

end RtlFlow
