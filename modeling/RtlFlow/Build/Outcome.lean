import RtlFlow.Archive
import RtlFlow.Classify.Classifier
import RtlFlow.Tool.Request

/-! # Requests and outcomes of operations

An operation on a project passes through a fixed row of states and ends in one of two more. The
outcome tells the states that were visited, the state in which the operation failed and why, and
all that came about on the way. -/

namespace RtlFlow

/-- **What a request sets aside of the options of the project.** -/
structure Overrides where
  /-- Generics, which win over those of the project. -/
  generics : Generics := .empty
  /-- The time to be simulated. -/
  duration : Option Duration := none
  /-- The part to synthesize for. -/
  part : Option String := none
  /-- The flow whose constraints are taken. -/
  flow : Option String := none
  /-- The limit on the time of the last run. -/
  timeout : Option Duration := none
  /-- Further precompiled libraries. -/
  includes : List IncludePath := []
  deriving Repr, Inhabited

/-- **A request for an operation on a project.** -/
structure OperationRequest where
  /-- The operation. -/
  kind : Operation
  /-- The unit to be simulated or synthesized. -/
  target : Option String := none
  /-- The backend, where it is not that of the project. -/
  backend : Option String := none
  /-- What it sets aside. -/
  overrides : Overrides := {}
  deriving Repr, Inhabited

/-- **The states of an operation.** -/
inductive BuildState where
  /-- The backend, the target and the plan are found. -/
  | planning
  /-- The files to be compiled are found. -/
  | filtering
  /-- The tool runs. -/
  | executing
  /-- The output of the last run is classified. -/
  | classifying
  /-- The outputs are archived. -/
  | archiving
  /-- The operation has succeeded. -/
  | done
  /-- The operation has failed. -/
  | failed
  deriving DecidableEq, Repr, Inhabited

/-- The name of a state. -/
def BuildState.keyword : BuildState → String
  | .planning => "PLANNING"
  | .filtering => "FILTERING"
  | .executing => "EXECUTING"
  | .classifying => "CLASSIFYING"
  | .archiving => "ARCHIVING"
  | .done => "DONE"
  | .failed => "FAILED"

/-- **The outcome of an operation**, or what is known of it so far. -/
structure OperationOutcome where
  /-- It has succeeded. -/
  succeeded : Bool := false
  /-- The present state. -/
  state : BuildState := .planning
  /-- The state in which it failed. -/
  failedIn : Option BuildState := none
  /-- The states that were entered, in order. -/
  transitions : List BuildState := [.planning]
  /-- The backend, once it is found. -/
  backend : Option String := none
  /-- The files that were compiled with success. -/
  compiled : List Path := []
  /-- The files that were skipped. -/
  skipped : List Path := []
  /-- The classified output of all runs. -/
  messages : List Message := []
  /-- What the last run gave. -/
  toolResult : Option ToolResult := none
  /-- The bundle that was written. -/
  archive : Option Archive.Bundle := none
  /-- Why no bundle could be written. -/
  archiveError : Option ArchiveError := none
  /-- Why it failed. -/
  error : Option BuildError := none
  deriving Repr, Inhabited

namespace OperationOutcome

/-- The outcome with a state entered. -/
def enter (o : OperationOutcome) (s : BuildState) : OperationOutcome :=
  { o with state := s, transitions := o.transitions ++ [s] }

/-- The outcome with the state in which the operation failed, unless that is known already. -/
def failedAt (o : OperationOutcome) (s : BuildState) : OperationOutcome :=
  { o with failedIn := o.failedIn.or (some s) }

/-- **The outcome of an operation that fails** with an error. -/
def fail (o : OperationOutcome) (e : BuildError) : OperationOutcome :=
  { o.failedAt o.state with error := some e, succeeded := false }.enter .failed

/-- The outcome of an operation that succeeds. -/
def succeed (o : OperationOutcome) : OperationOutcome :=
  { o with succeeded := true }.enter .done

end OperationOutcome

end RtlFlow
