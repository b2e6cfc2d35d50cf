import RtlFlow.Classify.Classifier
import RtlFlow.Tool.Operation
import RtlFlow.Tool.Request

/-! # Backends

A backend stands for a tool. It tells which operations, generics and constraints the tool takes,
how the output of the tool is classified, and which invocation answers a request. A request is
checked against what the backend takes before an invocation is made of it. -/

namespace RtlFlow

open RtlFlow.Text.Unicode

/-- **What a tool takes.** -/
structure Capabilities where
  /-- The operations that it offers, in ascending order. -/
  operations : List Operation
  /-- The constraint flows that it takes besides its own, in lower case. -/
  constraintFlows : List String
  /-- The kinds of generics that it takes, in ascending order. -/
  genericKinds : List GenericKind
  /-- It takes generics at all. -/
  nativeGenerics : Bool
  deriving DecidableEq, Repr, Inhabited

namespace Capabilities

/-- The capabilities given by lists in any order. Generics are taken when some kind is. -/
def ofLists (operations : List Operation) (flows : List String) (kinds : List GenericKind) :
    Capabilities where
  operations := Operation.all.filter (operations.contains ·)
  constraintFlows := flows.map lowercase
  genericKinds := GenericKind.all.filter (kinds.contains ·)
  nativeGenerics := !kinds.isEmpty

/-- Whether an operation is offered. -/
def supports (c : Capabilities) (o : Operation) : Bool := c.operations.contains o

/-- Whether generics of a kind are taken. -/
def takes (c : Capabilities) (k : GenericKind) : Bool :=
  c.nativeGenerics && c.genericKinds.contains k

end Capabilities

/-- **A backend.** -/
structure Backend where
  /-- The name. -/
  name : String
  /-- The program that it drives, as it was configured. -/
  executable : String
  /-- The flow to which its constraints belong. -/
  flow : Option String
  /-- What it takes. -/
  capabilities : Capabilities
  /-- How its output is classified. -/
  classifier : Classifier
  /-- Its program is there. -/
  installed : Bool
  /-- The directory of a compiled library in a work directory, where the backend knows it. -/
  libraryDir : String → Path → Option Path
  /-- The invocation that compiles a file. -/
  compileInvocation : CompileRequest → Except ToolError Invocation
  /-- The invocation that simulates a unit. -/
  simulateInvocation : SimulateRequest → Except ToolError Invocation
  /-- The invocation that synthesizes a unit. -/
  synthesizeInvocation : SynthesizeRequest → Except ToolError Invocation
  deriving Inhabited

namespace Backend

/-- The error for an operation that the backend does not offer. -/
def unsupported (b : Backend) (o : Operation) : ToolError :=
  .unsupportedOperation b.name o.keyword

/-- **Whether the backend can carry out an operation**: it is offered, and the program is there. -/
def ensureReady (b : Backend) (o : Operation) : Except ToolError Unit :=
  if !b.capabilities.supports o then .error (b.unsupported o)
  else if !b.installed then .error (.notInstalled b.name b.executable)
  else .ok ()

/-- **Whether the backend takes all generics**; the first that it does not take is the error. -/
def checkGenerics (b : Backend) (g : Generics) : Except ToolError Unit :=
  match g.entries.find? fun (_, v) => !b.capabilities.takes v.kind with
  | some (name, v) => .error (.unsupportedOverride b.name name v.kind.keyword)
  | none => .ok ()

/-- Whether the backend takes constraints of a flow, where a flow may have been chosen in place of
those that the backend takes. -/
def acceptsFlow (b : Backend) (chosen : Option String) (flow : String) : Bool :=
  match chosen with
  | some f => lowercase f == flow
  | none => b.capabilities.constraintFlows.contains flow || b.flow.map lowercase == some flow

/-- **The constraints files that the backend takes.** A file that belongs to no flow is always
taken. -/
def selectConstraints (b : Backend) (chosen : Option String) (files : List ConstraintsFile) :
    List ConstraintsFile :=
  files.filter fun c => c.effectiveFlow.all (b.acceptsFlow chosen)

/-- **The checked invocation that compiles a file.** -/
def prepareCompile (b : Backend) (r : CompileRequest) : Except ToolError Invocation := do
  b.ensureReady .compile
  b.checkGenerics r.file.generics
  b.compileInvocation r

/-- **The checked invocation that simulates a unit.** -/
def prepareSimulate (b : Backend) (r : SimulateRequest) : Except ToolError Invocation := do
  b.ensureReady .simulate
  b.checkGenerics r.generics
  b.simulateInvocation r

/-- **The checked invocation that synthesizes a unit**, with the constraints that are taken. -/
def prepareSynthesize (b : Backend) (chosen : Option String) (r : SynthesizeRequest) :
    Except ToolError Invocation := do
  b.ensureReady .synthesize
  b.checkGenerics r.generics
  b.synthesizeInvocation { r with constraints := b.selectConstraints chosen r.constraints }

/-- The backend that offers no invocation for any request. -/
def bare (name executable : String) (flow : Option String) (capabilities : Capabilities)
    (installed : Bool) : Backend where
  name := name
  executable := executable
  flow := flow
  capabilities := capabilities
  classifier := ⟨[], false⟩
  installed := installed
  libraryDir := fun _ _ => none
  compileInvocation := fun _ => .error (.unsupportedOperation name Operation.compile.keyword)
  simulateInvocation := fun _ => .error (.unsupportedOperation name Operation.simulate.keyword)
  synthesizeInvocation := fun _ => .error (.unsupportedOperation name Operation.synthesize.keyword)

end Backend

end RtlFlow
