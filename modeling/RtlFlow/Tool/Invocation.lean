import RtlFlow.Path
import RtlFlow.Duration
import RtlFlow.Table

/-! # Invocations and their results

An invocation is what a backend makes of a request: scripts to be written, commands to be run one
after the other, the files that the tool is expected to leave and a limit on the time. A tool
result is what running it gives. -/

namespace RtlFlow

/-- **A command to be run.** -/
structure ToolCommand where
  /-- The program, by name or path. -/
  program : String
  /-- The arguments. -/
  args : List String
  /-- The directory in which it runs. -/
  cwd : Path
  /-- Variables added to the environment, in ascending order. -/
  env : List (String × String)
  deriving DecidableEq, Repr, Inhabited

/-- The command as one line of text. -/
def ToolCommand.line (c : ToolCommand) : String := " ".intercalate (c.program :: c.args)

/-- **A file to be written** before the commands run. -/
structure ScriptFile where
  /-- Where it is written. -/
  path : Path
  /-- What is written. -/
  content : String
  deriving DecidableEq, Repr, Inhabited

/-- **All that is needed to carry out one operation.** -/
structure Invocation where
  /-- The commands, run in turn until one does not exit with code zero. -/
  steps : List ToolCommand := []
  /-- The files to be written first. -/
  scripts : List ScriptFile := []
  /-- The files and directories to be archived. -/
  artifacts : List Path := []
  /-- The limit on the time of all commands together. -/
  timeout : Option Duration := none
  deriving DecidableEq, Repr, Inhabited

/-- The program of the first command. -/
def Invocation.program (i : Invocation) : String := (i.steps.head?.map (·.program)).getD ""

/-- **How a run ended.** -/
inductive ToolStatus where
  /-- It exited with a code; the code is -1 when a signal ended it. -/
  | exited (code : Int)
  /-- It was stopped when its time was over. -/
  | timedOut
  /-- It was stopped by cancellation. -/
  | cancelled
  deriving DecidableEq, Repr, Inhabited

/-- **What a run gave.** -/
structure ToolResult where
  /-- How it ended. -/
  status : ToolStatus
  /-- What it wrote to standard output. -/
  stdout : String
  /-- What it wrote to standard error. -/
  stderr : String
  /-- How long it took. -/
  elapsed : Duration
  deriving DecidableEq, Repr, Inhabited

namespace ToolResult

/-- The exit code, if the run exited. -/
def exitCode? (r : ToolResult) : Option Int :=
  match r.status with
  | .exited code => some code
  | _ => none

/-- Whether the run was cancelled. -/
def wasCancelled (r : ToolResult) : Bool := r.status == .cancelled

end ToolResult

end RtlFlow
