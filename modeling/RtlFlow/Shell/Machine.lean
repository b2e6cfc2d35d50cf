import RtlFlow.Shell.Syntax
import RtlFlow.Shell.Utility.Basic

/-! # The state of a running shell

A shell runs on a machine with files, pipes and a clock. Programs run one after the other: what a
program writes into a pipe is kept until the next one reads it, and only waiting takes time. The
frame holds what a program has for itself: its variables, where its output goes, its number. -/

namespace RtlFlow.Shell

/-- **Where output goes.** -/
inductive Sink where
  /-- Into a pipe, by number. -/
  | pipe (n : Nat)
  /-- To the end of a file. -/
  | file (l : Location)
  /-- Nowhere. -/
  | nowhere
  deriving DecidableEq, Repr, Inhabited

/-- **A pipe** with what was written into it. -/
structure Pipe where
  /-- What was written, last part first. -/
  parts : List (List Char)
  /-- What was then written without end. -/
  cycle : List Char
  deriving Repr, Inhabited

/-- The pipe without content. -/
def Pipe.empty : Pipe := ⟨[], []⟩

/-- What a pipe holds. -/
def Pipe.stream (p : Pipe) : ByteStream := ⟨p.parts.reverse.flatten, p.cycle⟩

/-- **A variable.** -/
structure Variable where
  /-- The name. -/
  name : String
  /-- The value. -/
  value : Field
  /-- Whether programs that are started see it. -/
  exported : Bool
  deriving DecidableEq, Repr, Inhabited

/-- **What a program has for itself.** -/
structure Frame where
  /-- The name under which it was started. -/
  name : Field
  /-- Its arguments. -/
  args : List Field
  /-- Its variables. -/
  bindings : List Variable
  /-- The functions that it has defined, newest first. -/
  functions : List (String × Command)
  /-- Its number. -/
  pid : Nat
  /-- The number of the command that it last put into the background. -/
  lastJob : Nat
  /-- The status of its last command. -/
  status : Nat
  /-- The line that it is at. -/
  line : Nat
  /-- What it has not read of its input. -/
  input : ByteStream
  /-- Where its output goes. -/
  out : Sink
  /-- Where its complaints go. -/
  err : Sink
  /-- Whether a command that fails ends it. -/
  strict : Bool
  /-- Whether it is in a condition, where commands may fail. -/
  inCondition : Bool
  deriving Repr, Inhabited

/-- **A command that nobody has waited for yet.** -/
structure Job where
  /-- What its program has for itself. -/
  frame : Frame
  /-- The directory in which it runs. -/
  workingDir : Location
  /-- The command. -/
  command : Command
  /-- When it began. -/
  began : Nat
  deriving Repr, Inhabited

/-- **The machine.** -/
structure Machine where
  /-- The files. -/
  files : FileTree
  /-- The pipes that are open. -/
  pipes : Array Pipe
  /-- The nanoseconds that have passed. -/
  clock : Nat
  /-- When time is up. -/
  deadline : Option Nat
  /-- The greatest number of a program so far. -/
  lastPid : Nat
  /-- The commands in the background, in the order in which they began. -/
  jobs : List Job
  /-- Whether the output is still open somewhere when time is up. -/
  held : Bool
  /-- The frame of the program that runs. -/
  frame : Frame
  deriving Inhabited

/-- **Why a program does not go on.** -/
inductive Stop where
  /-- It ends with a status. -/
  | exit (status : Nat)
  /-- A signal ends the program with a number. -/
  | signal (pid number : Nat)
  /-- Time is up. -/
  | expired
  /-- It writes without end into a pipe. -/
  | endless
  /-- A function or a script that was read returns. -/
  | returned (status : Nat)
  /-- So many loops are left. -/
  | broken (loops : Nat)
  /-- The so many-th loop goes on with its next round. -/
  | continued (loops : Nat)
  deriving DecidableEq, Repr, Inhabited

/-- **An action of a running program.** -/
abbrev Action := ExceptT Stop (StateM Machine)

/-- Changes the frame. -/
def modifyFrame (f : Frame → Frame) : Action Unit := modify fun m => { m with frame := f m.frame }

/-- The frame. -/
def frame : Action Frame := return (← get).frame

/-- Runs an action and answers how it ended. -/
def outcome {α : Type} (a : Action α) : Action (Except Stop α) := fun m =>
  let (r, m) := a.run m
  (.ok r, m)

/-- An operation on the files as an action. -/
def onFiles {α : Type} (a : StateM FileTree α) : Action α := do
  let m ← get
  let (r, files) := a.run m.files
  set { m with files }
  return r

/-- Octets put behind a file. -/
def appendTo (l : Location) (cs : List Char) (t : FileTree) : FileTree :=
  match t.entryAt? l with
  | some (.file content executable) => t.put l (.file (content ++ octetFile cs) executable)
  | _ => t

/-- **Writes a stream.** Nobody waits for the end of what has none: it only goes on while a pipe
is read. -/
def write (sink : Sink) (s : ByteStream) : Action Unit := do
  match sink with
  | .pipe n =>
    if !s.start.isEmpty || s.isEndless then
      modify fun m =>
        { m with pipes := m.pipes.modify n fun p => ⟨s.start :: p.parts, s.cycle⟩ }
    if s.isEndless then throw .endless
  | .file l =>
    if !s.start.isEmpty then modify fun m => { m with files := appendTo l s.start m.files }
    if s.isEndless then throw .expired
  | .nowhere => if s.isEndless then throw .expired

/-- Writes to the output. -/
def writeOut (s : ByteStream) : Action Unit := do write (← frame).out s

/-- Writes a complaint on a line. -/
def complain (text : String) : Action Unit := do
  write (← frame).err (.ofList (Text.octets text ++ ['\n']))

/-- Writes a complaint of the shell itself, behind its name and the line. -/
def complainAt (text : String) : Action Unit := do
  let f ← frame
  complain (Text.ofOctets f.name ++ ": " ++ toString f.line ++ ": " ++ text)

/-- **Lets time pass**, at most until it is up. -/
def pass (nanos : Nat) : Action Unit := do
  let m ← get
  match m.deadline with
  | some d =>
    if d ≤ m.clock + nanos then
      set { m with clock := d }
      throw .expired
    else set { m with clock := m.clock + nanos }
  | none => set { m with clock := m.clock + nanos }

/-- The value of a variable. -/
def Frame.value? (f : Frame) (name : String) : Option Field :=
  (f.bindings.find? (·.name = name)).map (·.value)

/-- The frame with a variable set. It is exported when it was, or when that is asked for. -/
def Frame.assign (f : Frame) (name : String) (value : Field) (exported : Bool) : Frame :=
  let known := (f.bindings.find? (·.name = name)).any (·.exported)
  let others := f.bindings.filter (·.name ≠ name)
  { f with bindings := others ++ [⟨name, value, known || exported⟩] }

/-- The bindings that a program sees when it is started. -/
def Frame.environment (f : Frame) : List Variable := f.bindings.filter (·.exported)

/-- **Runs an action in a copy of the program.** Only what it does to the machine stays; a stop
that concerns the copy alone becomes its status. -/
def inCopy (a : Action Nat) : Action Nat := do
  let before ← get
  let r ← outcome a
  modify fun m =>
    { m with
      frame := before.frame, files := { m.files with workingDir := before.files.workingDir } }
  match r with
  | .ok status | .error (.exit status) | .error (.returned status) => return status
  | .error .endless | .error (.broken _) | .error (.continued _) => return 0
  | .error .expired =>
    modify ({ · with held := true })
    throw .expired
  | .error (.signal pid number) => throw (.signal pid number)

/-- Runs a command of the background from when it began, at most up to a time; answers when it was
done. -/
def runJob (run : Command → Action Nat) (limit : Option Nat) (j : Job) : Action Nat := do
  let before ← get
  set { before with
    clock := j.began, deadline := limit, frame := j.frame,
    files := { before.files with workingDir := j.workingDir } }
  let _ ← outcome (inCopy (run j.command))
  let done := (← get).clock
  modify fun m =>
    { m with
      clock := before.clock, deadline := before.deadline, frame := before.frame,
      files := { m.files with workingDir := before.files.workingDir } }
  return done

/-- **Runs the commands of the background**, at most up to a time, and answers when the last one was
done. They may put further ones there, but not for more than `fuel` rounds. -/
def runJobs (run : Command → Action Nat) (limit : Option Nat) : Nat → Action Nat
  | 0 => return (← get).clock
  | fuel + 1 => do
    let m ← get
    if m.jobs.isEmpty then return m.clock
    set { m with jobs := [] }
    let ends ← m.jobs.mapM (runJob run limit)
    return max (ends.foldl max m.clock) (← runJobs run limit fuel)

/-- How many rounds of commands in the background may follow each other. -/
def maxJobRounds : Nat := 64

/-- **Runs an action and answers what it writes.** -/
def capturing (a : Action Nat) : Action (ByteStream × Nat) := do
  let n := (← get).pipes.size
  modify fun m => { m with pipes := m.pipes.push .empty }
  let r ← outcome (inCopy do
    modifyFrame ({ · with out := .pipe n })
    a)
  let pipe := ((← get).pipes[n]?).getD .empty
  modify fun m => { m with pipes := m.pipes.take n }
  match r with
  | .ok status => return (pipe.stream, status)
  | .error e => throw e

end RtlFlow.Shell
