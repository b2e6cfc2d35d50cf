import RtlFlow.Error
import RtlFlow.Host.FileTree
import RtlFlow.Tool.Invocation

/-! # Runners

A runner carries out invocations. What it may look at and change is the session: the file tree,
the request for cancellation, and a state of its own. -/

namespace RtlFlow

/-- **What a runner sees and changes**, with a state of its own of type `ρ`. -/
structure Session (ρ : Type) where
  /-- The file tree. -/
  files : FileTree
  /-- Cancellation has been asked for. -/
  cancelled : Bool
  /-- The state of the runner. -/
  runner : ρ
  deriving Inhabited

/-- **An action in a session** that may fail; the session that it leaves counts in both cases. -/
abbrev SessionAction (ρ ε α : Type) := ExceptT ε (StateM (Session ρ)) α

/-- **A runner**: it carries out an invocation, or fails to start one of its commands. -/
abbrev Runner (ρ : Type) := Invocation → SessionAction ρ ToolError ToolResult

/-- **A run** with the artifacts that its invocation names. -/
structure ToolRun where
  /-- What the run gave. -/
  result : ToolResult
  /-- The artifacts to be archived. -/
  artifacts : List Path
  deriving DecidableEq, Repr, Inhabited

namespace Runner

variable {ρ : Type}

/-- **Carries out an invocation** that may have failed to be made, with a limit on its time in
place of its own, where one is given. -/
def execute (run : Runner ρ) (timeout : Option Duration) (made : Except ToolError Invocation) :
    SessionAction ρ ToolError ToolRun := do
  match made with
  | .error e => throw e
  | .ok invocation =>
    let invocation := { invocation with timeout := timeout.or invocation.timeout }
    return ⟨← run invocation, invocation.artifacts⟩

end Runner

namespace SessionAction

variable {ρ ε α : Type}

/-- An action on the file tree as an action in a session. -/
def onFiles (a : FileAction ε α) : SessionAction ρ ε α := fun s =>
  let (r, files) := a s.files
  (r, { s with files })

end SessionAction

end RtlFlow
