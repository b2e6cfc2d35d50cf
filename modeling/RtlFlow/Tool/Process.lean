import RtlFlow.Host.FileTree
import RtlFlow.Tool.Invocation
import RtlFlow.Tool.Reader

/-! # Processes

A process that has been started exits by itself, or it is killed. Whoever has started it waits for
its exit, for a deadline and for cancellation at once, and goes on with what comes first. The output
may be held open by others when the process is over, and is then read a while longer.

Instants and spans of time are numbers of nanoseconds. What comes is noticed at the instant at which
it comes. Nothing is assumed of what a process does, and it may survive being killed. -/

namespace RtlFlow.Launch

/-- **An output stream** of a process that is over. Times are counted from when it was over. -/
structure Output where
  /-- When the stream comes to its end, if it does. -/
  closed : Option Nat
  /-- What has been read of it by a time. -/
  reads : Nat → Reads

/-- **What a process leaves** when it is over. Times are counted from then. -/
structure Aftermath where
  /-- Its standard output. -/
  stdout : Output
  /-- Its standard error. -/
  stderr : Output
  /-- The files at a time. -/
  files : Nat → FileTree

/-- What a process leaves that has written nothing and has left the files as they are. -/
def Aftermath.silent (t : FileTree) : Aftermath where
  stdout := ⟨some 0, fun _ => []⟩
  stderr := ⟨some 0, fun _ => []⟩
  files := fun _ => t

/-- **The exit of a process.** -/
structure Exit where
  /-- When it exits, counted from when its command began. -/
  time : Nat
  /-- What waiting for it gives: the exit code, unless a signal has ended the process. -/
  waited : Except Fault (Option Int)
  /-- What it leaves. -/
  left : Aftermath

/-- **A process**, by what becomes of it. -/
structure Process where
  /-- How it exits if nobody kills it, unless it runs for ever. -/
  exit : Option Exit
  /-- What it leaves when it is killed so long after its command began. -/
  killed : Nat → Aftermath

/-! ## Waiting -/

/-- **What is waited for**, with the time at which it comes, counted from when the command began. -/
inductive Event where
  /-- The process exits. -/
  | exit (e : Exit)
  /-- The deadline passes. -/
  | deadline (time : Nat)
  /-- Cancellation is asked for. -/
  | cancellation (time : Nat)

/-- When an event comes. -/
def Event.time : Event → Nat
  | .exit e => e.time
  | .deadline n | .cancellation n => n

/-- **What ends every command of a run**: instants on the clock. -/
structure Limits where
  /-- The deadline. -/
  deadline : Option Nat
  /-- When cancellation is asked for. -/
  cancellation : Option Nat
  deriving DecidableEq, Repr, Inhabited

/-- The events of a process whose command began at an instant. What lies behind the instant comes at
once. -/
def Process.events (p : Process) (limits : Limits) (began : Nat) : List (Option Event) :=
  [p.exit.map .exit, limits.deadline.map fun d => .deadline (d - began),
    limits.cancellation.map fun d => .cancellation (d - began)]

/-- An event, or another one that comes before it. -/
def Event.orSooner (e : Event) : Option Event → Event
  | some e' => if e'.time < e.time then e' else e
  | none => e

/-- The event that comes first; of those that come at one time it is the one that stands first. -/
def earliest : List (Option Event) → Option Event
  | [] => none
  | none :: rest => earliest rest
  | some e :: rest => some (e.orSooner (earliest rest))

/-- **Waits for events.** They are looked at in their order, but any one of them may be the first:
`turn` says which. -/
def select (turn : Nat) (events : List (Option Event)) : Option Event :=
  earliest (events.drop turn ++ events.take turn)

/-- **How a command ended** when an event came. -/
def Event.status : Event → Except Fault ToolStatus
  | .exit e => e.waited.map fun code => .exited (code.getD (-1))
  | .deadline _ => .ok .timedOut
  | .cancellation _ => .ok .cancelled

/-- What a process leaves behind an event. It is killed unless it has exited. -/
def Process.left (p : Process) : Event → Aftermath
  | .exit e => e.left
  | .deadline n | .cancellation n => p.killed n

/-! ## Output -/

/-- How long the output of a process that is over is read at most. -/
def drainNanos : Nat := 500000000

/-- **How long output is read**: until both streams have come to their end, if that does not take
too long. -/
def Aftermath.drained (a : Aftermath) : Nat :=
  match a.stdout.closed, a.stderr.closed with
  | some n, some k => min (max n k) drainNanos
  | _, _ => drainNanos

/-- Bytes up to the last line feed. -/
def endedLines (bytes : List UInt8) : List UInt8 :=
  (bytes.reverse.dropWhile (· ≠ lineFeed)).reverse

/-- **What is kept of a stream** by a time. A line that has not ended is only kept when the stream
has come to its end. -/
def Output.kept (o : Output) (n : Nat) : String :=
  if o.closed.any (· ≤ n) then capture (o.reads n) else capture [endedLines (o.reads n).flatten]

end RtlFlow.Launch
