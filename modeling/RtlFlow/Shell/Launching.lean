import RtlFlow.Shell.Running
import RtlFlow.Tool.Launch

/-! # A machine that starts programs

The launcher of a machine whose native programs are shells and the utilities. A program is found as
the machine finds it and runs at once. When it is over, what it has put into the background goes on
while the output is still read. -/

namespace RtlFlow.Shell

open Launch (Aftermath Process)

/-- The names of the native programs. -/
def nativeNames : List String :=
  shells ++ ["sleep", "env", "printenv"] ++ utilities.map (·.1)

/-- The directories that hold the native programs. -/
def nativeDirs : List Location := [["usr", "bin"], ["bin"]]

/-- **The entries of a machine** that has nothing but its native programs. -/
def nativeEntries : List (Location × Entry) :=
  (["usr"] :: nativeDirs).map (·, .directory) ++
    nativeDirs.flatMap fun dir =>
      nativeNames.map fun name => (dir ++ [name], .file (nativeContent name) true)

/-- **The environment of a command**: variables with their values. -/
abbrev Environment := List (String × String)

/-- An environment with variables of a command set in it. -/
def Environment.with (e : Environment) (vars : List (String × String)) : Environment :=
  e.filter (fun (name, _) => !vars.any (·.1 = name)) ++ vars

/-- Whether a text that a program is given holds a zero byte. -/
def holdsZero (e : Environment) (c : ToolCommand) : Bool :=
  (c.program :: c.args ++ e.flatMap fun (name, value) => [name, value]).any fun s =>
    s.toList.contains '\x00'

/-- What runs when a command is started. A file without a known format is only read by a shell when
the command brings a search path of its own. -/
def commandStart (e : Environment) (c : ToolCommand) (t : FileTree) : Except Fault Start := do
  if holdsZero e c then .error .nulInArgument
  let name := Text.octets c.program
  let args := c.args.map Text.octets
  let path ← lookUp t ((e.lookup "PATH").getD defaultSearchPath) name
  match startOf t path name args with
  | .error .execFormat =>
    if c.env.any (·.1 = "PATH") && !name.contains '/' then
      .ok ⟨"sh", name, Text.octets path.text :: args⟩
    else .error .execFormat
  | r => r

/-- The number of the first program. -/
def firstPid : Nat := 100

/-- The machine on which a program begins to run. Its output goes to the first pipe, and its
complaints go to the second. -/
def Machine.begin (e : Environment) (limit : Option Nat) (t : FileTree) : Machine where
  files := t
  pipes := #[.empty, .empty]
  clock := 0
  deadline := limit
  lastPid := firstPid
  jobs := []
  held := false
  frame :=
    { name := [], args := [],
      bindings := e.map fun (name, value) => ⟨name, Text.octets value, true⟩,
      functions := [], pid := firstPid, lastJob := 0, status := 0, line := 1, input := .empty,
      out := .pipe 0, err := .pipe 1, strict := false, inCondition := false }

/-- How many commands may stand inside each other. -/
def maxDepth : Nat := 10000

/-- The exit code of a program by how it stopped, none when a signal has ended it. A program that
runs for ever has not exited. -/
def exitAt : Except Stop Nat → Option (Option Int)
  | .ok n | .error (.exit n) | .error (.returned n) => some (some n)
  | .error (.signal ..) => some none
  | .error .expired | .error .endless => none
  | .error (.broken _) | .error (.continued _) => some (some 0)

/-- What has been read of a pipe. -/
def readPipe (m : Machine) (n : Nat) : List UInt8 :=
  Text.octetBytes ((m.pipes[n]?).getD .empty).stream.start

/-- **What a program leaves** on a machine that has stopped. What is in the background goes on, and
holds the output open. -/
def Machine.aftermath (m : Machine) (home : Location) : Aftermath :=
  let later (n : Nat) := (runJobs (run maxDepth) (some (m.clock + n)) maxJobRounds).run m
  let (done, last) := later Launch.drainNanos
  let closed := if last.held then none else some (done.toOption.getD m.clock - m.clock)
  let machine (n : Nat) : Machine := if closed.any (· ≤ n) then last else (later n).2
  { stdout := ⟨closed, fun n => [readPipe (machine n) 0]⟩
    stderr := ⟨closed, fun n => [readPipe (machine n) 1]⟩
    files := fun n => { (machine n).files with workingDir := home } }

/-- How long a program is run at most before it is taken to run for ever. -/
def patience : Nat := 3600 * Duration.nanosPerSecond

/-- **A process** that runs a program. One that is killed as soon as it begins has done nothing. -/
def processOf (e : Environment) (home : Location) (t : FileTree) (s : Start) : Process :=
  let runUntil (n : Nat) :=
    (runNative (run maxDepth) maxStarts s).run (Machine.begin e (some n) t)
  let exit := do
    let (r, m) := runUntil patience
    return ⟨m.clock, .ok (← exitAt r), m.aftermath home⟩
  let killed (n : Nat) : Aftermath :=
    if n = 0 then .silent { t with workingDir := home }
    else (runUntil n).2.aftermath home
  ⟨exit, killed⟩

/-- **The machine**, in an environment to which a command adds its own. Nobody asks it for
cancellation while a command runs. -/
def launcher (base : Environment) : Launcher where
  spawn _ c t := do
    let here := match t.locate c.cwd with | .ok l => l | .error _ => t.workingDir
    let e := base.with c.env
    let t' := { t with workingDir := here }
    return processOf e t.workingDir t' (← commandStart e c t')
  begun := Duration.nanosPerSecond
  latest := Launch.lastInstant
  cancelledAt := none
  turn _ := 1

end RtlFlow.Shell
