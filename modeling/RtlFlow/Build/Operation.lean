import RtlFlow.Build.Options
import RtlFlow.Build.Outcome
import RtlFlow.Build.Registry
import RtlFlow.Cache.Filter
import RtlFlow.Cache.Store
import RtlFlow.Plan.Resolve
import RtlFlow.Target
import RtlFlow.Tool.Runner

/-! # Operations on a project

An operation compiles the files of a project that have changed, simulates a unit or synthesizes
one. What can be checked without a tool is checked first. Then the files to be compiled are found
and compiled one after the other, and every success is remembered at once; after that the unit is
simulated or synthesized. The output of each run is classified, and the classification alone
decides on success. At the end the outputs are archived, also those of a run that failed. -/

namespace RtlFlow

/-- **The time at which an operation runs**, for records and for the names of bundles. -/
structure Clock where
  /-- The point in time. -/
  now : Timestamp
  /-- The point in time as it stands in the name of a bundle. -/
  stamp : String
  deriving DecidableEq, Repr, Inhabited

/-- **A project**: its catalog, its backends and its options. -/
structure Project where
  /-- The sources. -/
  catalog : Catalog
  /-- The backends. -/
  registry : BackendRegistry
  /-- The options. -/
  options : BuildOptions
  deriving Inhabited

/-- **What an operation changes**: the session, the cache and the outcome. -/
structure Progress (ρ : Type) where
  /-- The session. -/
  session : Session ρ
  /-- The cache. -/
  cache : BuildCache
  /-- The outcome so far. -/
  outcome : OperationOutcome

/-- **A step of an operation**, which may end it with an error. -/
abbrev OperationStep (ρ α : Type) := ExceptT BuildError (StateM (Progress ρ)) α

namespace OperationStep

variable {ρ α : Type}

/-- An answer that depends on nothing. -/
def ofResult (r : Except BuildError α) : OperationStep ρ α := ExceptT.mk (pure r)

/-- A run of a tool. -/
def ofRun (a : SessionAction ρ ToolError α) : OperationStep ρ α := fun p =>
  let (r, session) := a p.session
  (r.mapError BuildError.tool, { p with session })

/-- A change of the outcome. -/
def onOutcome (f : OperationOutcome → OperationOutcome) : OperationStep ρ Unit :=
  modify fun p => { p with outcome := f p.outcome }

/-- Enters a state. -/
def enter (s : BuildState) : OperationStep ρ Unit := onOutcome fun o => o.enter s

/-- A change of the cache. That it could not be stored does not end the operation. -/
def onCache (f : BuildCache → StateM FileTree (BuildCache × Option CacheError)) :
    OperationStep ρ Unit :=
  modify fun p =>
    let ((cache, _), files) := f p.cache p.session.files
    { p with cache, session := { p.session with files } }

/-- Ends the operation when cancellation has been asked for. -/
def stopIfCancelled (b : Backend) : OperationStep ρ Unit := do
  if (← get).session.cancelled then throw (.tool (.cancelled b.executable))

end OperationStep

/-- **What executing has given.** -/
structure Execution where
  /-- The run that decides. -/
  run : Option ToolRun
  /-- The operation of that run. -/
  operation : Operation
  /-- What it was about. -/
  subject : String
  /-- It is a compile that did not succeed. -/
  compileFailed : Bool
  deriving Repr, Inhabited

/-- **A run put behind the runs before it**, as one run. -/
def ToolRun.after (log : Option ToolRun) (run : ToolRun) : ToolRun :=
  match log with
  | none => run
  | some log =>
    { result :=
        { status := run.result.status
          stdout := log.result.stdout ++ run.result.stdout
          stderr := log.result.stderr ++ run.result.stderr
          elapsed := log.result.elapsed + run.result.elapsed }
      artifacts := log.artifacts ++ run.artifacts }

namespace Project

open OperationStep

variable {ρ : Type}

/-- The name of the role that a backend plays in an operation. -/
def roleOf : Operation → String
  | .synthesize => "synthesis"
  | .compile | .simulate => "simulation"

/-- **The backend for a request.** -/
def selectBackend (p : Project) (r : OperationRequest) : Except BuildError Backend :=
  match r.backend.or (p.options.defaultBackend r.kind) with
  | none => .error (.noBackend (roleOf r.kind))
  | some name => p.registry.find name

/-- The target of a request; a compile has none. -/
def targetOf (r : OperationRequest) : Except BuildError (Option Target) :=
  if r.kind = .compile then .ok none
  else
    match r.target with
    | none => .error (.missingTarget r.kind.keyword)
    | some text => some <$> Target.parse text

/-- The generics of a request on top of those of the project. -/
def genericsOf (p : Project) (r : OperationRequest) : Generics :=
  p.catalog.generics.mergedWith r.overrides.generics

/-- **What is checked before any tool runs.** -/
def preflight (b : Backend) (o : Operation) (g : Generics) : Except ToolError Unit := do
  b.ensureReady o
  if o ≠ .compile then
    b.checkGenerics g
    if b.capabilities.supports .compile then b.ensureReady .compile

/-- **The plan for a request** with its target, or the first thing that is wrong with it. -/
def planFor (p : Project) (b : Backend) (r : OperationRequest) (t : FileTree) :
    Except BuildError (Option Target × BuildPlan) := do
  let target ← targetOf r
  (preflight b r.kind (p.genericsOf r)).mapError .tool
  let plan ← (p.catalog.resolve t).mapError .resolver
  return (target, plan)

/-- Whether a library is there: the backend does not tell where it stands, or it stands there. -/
def libraryPresent (b : Backend) (workDir : Path) (t : FileTree) (library : String) : Bool :=
  (b.libraryDir library workDir).all t.isDir

/-- **The files with the decisions on them.** A backend that does not compile has none, and for a
synthesis only the files that take part in it are kept. -/
def filterFor (p : Project) (b : Backend) (o : Operation) (plan : BuildPlan)
    (cache : CacheContent) (t : FileTree) : FilteredPlan :=
  if b.capabilities.supports .compile then
    let filtered := cache.filter plan b.name (fun f => (t.fingerprint f).toOption)
      (libraryPresent b (p.options.workDir o) t)
    if o = .synthesize then filtered.synthesisOnly else filtered
  else ⟨[]⟩

/-- The precompiled libraries for a request. -/
def includesFor (p : Project) (b : Backend) (r : OperationRequest) : List IncludePath :=
  p.options.includesOf b.name ++ r.overrides.includes

/-- The outcome of a compile as it is remembered. -/
def outcomeOf (v : Verdict) : BuildOutcome :=
  if v = .passedWithWarnings then .passedWithWarnings else .passed

/-- Runs the compile of a file. -/
def runCompile (p : Project) (run : Runner ρ) (b : Backend) (r : OperationRequest)
    (f : SourceFile) : OperationStep ρ ToolRun :=
  ofRun (run.execute p.options.compileTimeout
    (b.prepareCompile ⟨f, p.options.workDir r.kind, p.includesFor b r⟩))

/-- The execution that ends with a compile. -/
def stoppedAt (f : SourceFile) (log : ToolRun) : Execution :=
  ⟨some log, .compile, f.path.text, true⟩

/-- Whether a compile has passed: it was not cancelled, and its output is that of a success. -/
def passes (b : Backend) (one : ToolRun) : Bool :=
  !one.result.wasCancelled && (b.classifier.classify one.result).verdict.isSuccess

/-- **Takes down what a compile has given**: its messages, and in the cache its success or its
failure. A compile that was cancelled leaves no trace. -/
def settle (b : Backend) (clock : Clock) (f : PlannedFile) (one : ToolRun) :
    OperationStep ρ Unit := do
  if !one.result.wasCancelled then
    let classification := b.classifier.classify one.result
    onOutcome fun o => { o with messages := o.messages ++ classification.messages }
    if classification.verdict.isSuccess then
      match f.fingerprint with
      | some fingerprint =>
        onCache fun c =>
          c.record b.name f.file.path fingerprint (outcomeOf classification.verdict) clock.now
      | none => pure ()
      onOutcome fun o => { o with compiled := o.compiled ++ [f.file.path] }
    else
      onCache fun c => c.forget b.name f.file.path

/-- **Compiles one file**, unless cancellation has been asked for. -/
def compileOne (p : Project) (run : Runner ρ) (b : Backend) (r : OperationRequest)
    (clock : Clock) (f : PlannedFile) : OperationStep ρ ToolRun := do
  stopIfCancelled b
  let one ← runCompile p run b r f.file
  settle b clock f one
  return one

/-- **Compiles files one after the other**; `log` is what the compiles before have given. Answers
the execution that ends with a compile that was cancelled or failed, or else the log of all. -/
def compileAll (p : Project) (run : Runner ρ) (b : Backend) (r : OperationRequest)
    (clock : Clock) : Option ToolRun → List PlannedFile →
    OperationStep ρ (Execution ⊕ Option ToolRun)
  | log, [] => return .inr log
  | log, f :: rest => do
    let one ← compileOne p run b r clock f
    let log := ToolRun.after log one
    if passes b one then compileAll p run b r clock (some log) rest
    else return .inl (stoppedAt f.file log)

/-- Runs the simulation of a target. -/
def runSimulate (p : Project) (run : Runner ρ) (b : Backend) (r : OperationRequest)
    (plan : BuildPlan) (target : Target) : OperationStep ρ ToolRun :=
  ofRun (run.execute (r.overrides.timeout.or p.options.simulateTimeout)
    (b.prepareSimulate {
      library := target.library
      entity := target.entity
      generics := p.genericsOf r
      duration := r.overrides.duration
      files := plan.files
      includes := p.includesFor b r
      workDir := p.options.workDir r.kind }))

/-- Runs the synthesis of a target. -/
def runSynthesize (p : Project) (run : Runner ρ) (b : Backend) (r : OperationRequest)
    (plan : BuildPlan) (target : Target) : OperationStep ρ ToolRun :=
  ofRun (run.execute (r.overrides.timeout.or p.options.synthesizeTimeout)
    (b.prepareSynthesize r.overrides.flow {
      library := target.library
      entity := target.entity
      generics := p.genericsOf r
      constraints := p.catalog.constraints
      part := r.overrides.part.or p.options.part
      files := plan.files.filter (·.synthesize)
      workDir := p.options.workDir r.kind }))

/-- **Carries out a request**: compiles, and then simulates or synthesizes the target. -/
def executeFor (p : Project) (run : Runner ρ) (b : Backend) (r : OperationRequest) (clock : Clock)
    (target : Option Target) (plan : BuildPlan) (filtered : FilteredPlan) :
    OperationStep ρ Execution := do
  match ← compileAll p run b r clock none filtered.toBuild with
  | .inl stopped => return stopped
  | .inr log =>
    stopIfCancelled b
    match r.kind, target with
    | .simulate, some target =>
      return ⟨some (← runSimulate p run b r plan target), .simulate, target.render, false⟩
    | .synthesize, some target =>
      return ⟨some (← runSynthesize p run b r plan target), .synthesize, target.render, false⟩
    | _, _ => return ⟨log, .compile, "project", false⟩

/-- **Classifies the run that decides**, unless that was done when it was compiled; answers whether
it has succeeded. -/
def judge (b : Backend) (e : Execution) (run : ToolRun) : OperationStep ρ Bool :=
  if e.compileFailed || e.operation = .compile then return !e.compileFailed
  else do
    let classification := b.classifier.classify run.result
    onOutcome fun o =>
      { o with
        messages := o.messages ++ classification.messages
        failedIn := if classification.verdict.isSuccess then o.failedIn else some .classifying }
    return classification.verdict.isSuccess

/-- Takes down what the run that decides has given, and ends the operation when that run was
cancelled. -/
def conclude (b : Backend) (run : ToolRun) : OperationStep ρ Unit := do
  onOutcome fun o => { o with toolResult := some run.result }
  if run.result.wasCancelled then
    onOutcome fun o => o.failedAt .executing
    throw (.tool (.cancelled b.executable))

/-- **Decides on what executing has given**; answers whether it has succeeded. -/
def classifyFor (b : Backend) (e : Execution) : OperationStep ρ Bool := do
  onOutcome fun o => { o with failedIn := if e.compileFailed then some .executing else o.failedIn }
  enter .classifying
  match e.run with
  | none => return !e.compileFailed
  | some run =>
    let succeeded ← judge b e run
    conclude b run
    return succeeded

/-- **Archives the outputs of the run that decides**, if there is one. -/
def archiveFor (p : Project) (r : OperationRequest) (clock : Clock) (succeeded : Bool)
    (e : Execution) : OperationStep ρ Unit := do
  enter .archiving
  match e.run with
  | none => pure ()
  | some run =>
    modify fun q =>
      let (result, files) := Archive.write p.options.archiveDir r.kind p.options.projectId
        succeeded run.artifacts (some run.result) clock.stamp q.session.files
      let outcome :=
        match result with
        | .ok bundle => { q.outcome with archive := some bundle }
        | .error error => { q.outcome with archiveError := some error }
      { q with outcome, session := { q.session with files } }

/-- The states of an operation, one after the other. -/
def stages (p : Project) (run : Runner ρ) (r : OperationRequest) (clock : Clock) :
    OperationStep ρ Unit := do
  let b ← ofResult (p.selectBackend r)
  onOutcome fun o => { o with backend := some b.name }
  let (target, plan) ← ofResult (p.planFor b r (← get).session.files)
  enter .filtering
  let q ← get
  let filtered := p.filterFor b r.kind plan q.cache.content q.session.files
  onOutcome fun o => { o with skipped := filtered.skipped.map (·.file.path) }
  enter .executing
  let execution ← p.executeFor run b r clock target plan filtered
  let succeeded ← classifyFor b execution
  p.archiveFor r clock succeeded execution
  if succeeded then onOutcome .succeed
  else throw (.toolFailed execution.operation.keyword execution.subject)

/-- **Carries out an operation on a project.** Answers the outcome, with the cache and the session
afterwards. -/
def operate (p : Project) (run : Runner ρ) (r : OperationRequest) (clock : Clock)
    (cache : BuildCache) (session : Session ρ) : Progress ρ :=
  match (p.stages run r clock).run ⟨session, cache, {}⟩ with
  | (.ok (), q) => q
  | (.error e, q) => { q with outcome := q.outcome.fail e }

end Project

end RtlFlow
