import RtlFlow.Host.Copy
import RtlFlow.Tool.Process
import RtlFlow.Tool.Runner

/-! # Running processes

An invocation is carried out by processes. Its scripts are written, and its commands are run one
after the other, each in its work directory, until one does not exit with code zero. All commands
have one deadline, the limit on the time behind the instant at which they begin. What the machine
makes of a command is a parameter, and so is its clock. -/

namespace RtlFlow

/-- **What a machine brings to a run of processes.** -/
structure Launcher where
  /-- Starts a command at an instant on the files that it finds. -/
  spawn : Nat → ToolCommand → FileTree → Except Fault Launch.Process
  /-- The instant at which the commands begin. -/
  begun : Nat
  /-- The last instant that the clock can tell. -/
  latest : Nat
  /-- The instant at which cancellation is asked for from outside. -/
  cancelledAt : Option Nat
  /-- Which event is looked at first when a command has begun at an instant. -/
  turn : Nat → Nat

/-- **A session at an instant**, by which cancellation may have been asked for. -/
def Session.hearing {ρ : Type} (s : Session ρ) (cancellation : Option Nat) (n : Nat) : Session ρ :=
  { s with cancelled := s.cancelled || cancellation.any (· ≤ n) }

namespace Launch

variable {ρ : Type}

/-- **Why a run gives no result.** -/
inductive NoResult where
  /-- It fails. -/
  | error (e : ToolError)
  /-- It panics with a message. -/
  | panic (message : String)
  /-- It waits for ever. -/
  | endless
  deriving DecidableEq, Repr

/-- The panic at an instant that the clock cannot tell. -/
def NoResult.overflow : NoResult := .panic "overflow when adding duration to instant"

/-- The last instant of a clock that counts its seconds in 63 bits. -/
def lastInstant : Nat := 9223372036854775807 * Duration.nanosPerSecond + 999999999

/-- Writes the scripts of an invocation. -/
def writeScripts (scripts : List ScriptFile) : SessionAction ρ ToolError Unit :=
  scripts.forM fun s =>
    .onFiles (ExceptT.adapt (fun e => .scriptWrite s.path e.message)
      (Host.writeText s.path s.content))

/-! ## One command -/

/-- **What a command gave.** -/
structure StepOutput where
  /-- How it ended. -/
  status : ToolStatus
  /-- What is kept of its standard output. -/
  stdout : String
  /-- What is kept of its standard error. -/
  stderr : String
  /-- The instant at which that was read. -/
  ended : Nat
  deriving DecidableEq, Repr, Inhabited

/-- A command that could not be carried out. -/
def notInvoked (c : ToolCommand) (message : String) : NoResult :=
  .error (.invocation c.program message)

/-- What a command has given that was over at an instant. -/
def outputOf (status : ToolStatus) (finish : Nat) (left : Aftermath) : StepOutput where
  status := status
  stdout := left.stdout.kept left.drained
  stderr := left.stderr.kept left.drained
  ended := finish + left.drained

/-- Starts a command at an instant and waits for what ends it. -/
def await (launch : Launcher) (limits : Limits) (now : Nat) (c : ToolCommand) :
    FileAction NoResult StepOutput := do
  match launch.spawn now c (← get) with
  | .error fault => throw (notInvoked c fault.message)
  | .ok p =>
    match select (launch.turn now) (p.events limits now) with
    | none => throw .endless
    | some e =>
      let left := p.left e
      match e.status with
      | .error fault =>
        -- nobody reads the output of a process whose exit is unknown
        set (left.files 0)
        throw (notInvoked c fault.message)
      | .ok status =>
        set (left.files left.drained)
        return outputOf status (now + e.time) left

/-- **Runs a command** in its work directory, which is created if it is missing. -/
def runStep (launch : Launcher) (limits : Limits) (now : Nat) (c : ToolCommand) :
    FileAction NoResult StepOutput := do
  ExceptT.adapt (fun e => notInvoked c e.message) (Host.ensureDir c.cwd)
  await launch limits now c

/-! ## All commands -/

/-- A result with what a command gave put behind it. -/
def extend (launch : Launcher) (r : ToolResult) (o : StepOutput) : ToolResult where
  status := o.status
  stdout := r.stdout ++ o.stdout
  stderr := r.stderr ++ o.stderr
  elapsed := .ofNanos (o.ended - launch.begun)

/-- The result before any command has run. -/
def noneYet : ToolResult := ⟨.exited 0, "", "", .zero⟩

/-- Runs commands in turn until one does not exit with code zero. -/
def runSteps (launch : Launcher) (limits : Limits) (r : ToolResult) (now : Nat) :
    List ToolCommand → SessionAction ρ NoResult ToolResult
  | [] => return r
  | c :: rest => do
    let o ← .onFiles (runStep launch limits now c)
    modify (·.hearing limits.cancellation o.ended)
    if o.status = .exited 0 then runSteps launch limits (extend launch r o) o.ended rest
    else return extend launch r o

/-- The instant that lies a duration behind another one. The clock must be able to tell it. -/
def after (launch : Launcher) (n : Nat) (d : Duration) : Except NoResult Nat :=
  if n + d.totalNanos ≤ launch.latest then .ok (n + d.totalNanos) else .error .overflow

/-- **What ends every command of a run** that begins now, with a limit on its time. -/
def limitsOf (launch : Launcher) (timeout : Option Duration) (cancelled : Bool) :
    Except NoResult Limits :=
  -- what was asked for before the run has been asked for at every instant of it
  let cancellation := if cancelled then some 0 else launch.cancelledAt
  match timeout with
  | none => .ok ⟨none, cancellation⟩
  | some d => (after launch launch.begun d).map (⟨some ·, cancellation⟩)

/-- **Carries out an invocation** on a machine. -/
def carryOut (launch : Launcher) (i : Invocation) : SessionAction ρ NoResult ToolResult := do
  ExceptT.adapt .error (writeScripts i.scripts)
  -- the deadline is told when the scripts have been written, and before anything is started
  let limits ← limitsOf launch i.timeout (← get).cancelled
  modify (·.hearing limits.cancellation launch.begun)
  runSteps launch limits noneYet launch.begun i.steps

end Launch

end RtlFlow
