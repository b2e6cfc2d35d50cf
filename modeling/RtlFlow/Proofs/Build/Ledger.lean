import RtlFlow.Proofs.Build.Observing

/-! # What compiles leave in the books

The loop over the files of an operation keeps account of three things: the content of the cache, the
files that were compiled, and the messages. `Ledger.enter` says what a call for a file does to them,
and each of the three follows from the calls alone (`content_foldl_enter`,
`compiled_foldl_enter`, `messages_foldl_enter`), whether the cache could be stored or not. -/

namespace RtlFlow

open OperationStep

/-- **The content with the compile of a file remembered**; a file that had no fingerprint when the
decision on it was made is not remembered. -/
def CacheContent.remember (c : CacheContent) (name : String) (f : PlannedFile)
    (outcome : BuildOutcome) (now : Timestamp) : CacheContent :=
  match f.fingerprint with
  | some fingerprint => c.record name f.file.path fingerprint outcome now
  | none => c

namespace Call

/-- Whether a call was that of a compile that has passed. -/
def passes (b : Backend) (c : Call) : Bool :=
  match c.reply with
  | .ok result => Project.passes b ⟨result, c.invocation.artifacts⟩
  | .error _ => false

/-- Whether a call was that of a compile whose output is classified as a failure; a compile that was
cancelled is not classified. -/
def fails (b : Backend) (c : Call) : Bool :=
  match c.reply with
  | .ok result => !result.wasCancelled && !(b.classifier.classify result).verdict.isSuccess
  | .error _ => false

/-- **The classified output of a compile**, which a compile that was cancelled does not have. -/
def said (b : Backend) (c : Call) : List Message :=
  match c.reply with
  | .ok result => if result.wasCancelled then [] else (b.classifier.classify result).messages
  | .error _ => []

/-- The content with the compile of a file remembered as its output is classified. -/
def remember (b : Backend) (now : Timestamp) (f : PlannedFile) (x : Call) (c : CacheContent) :
    CacheContent :=
  match x.reply with
  | .ok result => c.remember b.name f (Project.outcomeOf (b.classifier.classify result).verdict) now
  | .error _ => c

/-- **What the compile of a file leaves in a cache**: a success is remembered, and a failure makes
the file forgotten. -/
def leave (b : Backend) (now : Timestamp) (f : PlannedFile) (x : Call) (c : CacheContent) :
    CacheContent :=
  if x.passes b then x.remember b now f c
  else if x.fails b then c.forget b.name f.file.path
  else c

end Call

/-- **What the loop over files keeps account of.** -/
structure Ledger where
  /-- The content of the cache. -/
  content : CacheContent
  /-- The files that were compiled with success. -/
  compiled : List Path
  /-- The classified output. -/
  messages : List Message

/-- The ledger of a progress. -/
def Progress.ledger {ρ : Type} (q : Progress ρ) : Ledger :=
  ⟨q.cache.content, q.outcome.compiled, q.outcome.messages⟩

namespace Ledger

variable {b : Backend} {now : Timestamp} {k : Ledger} {f : PlannedFile} {x : Call}

/-- **The ledger with the call for a file entered.** -/
def enter (b : Backend) (now : Timestamp) (k : Ledger) (x : PlannedFile × Call) : Ledger where
  content := x.2.leave b now x.1 k.content
  compiled := if x.2.passes b then k.compiled ++ [x.1.file.path] else k.compiled
  messages := k.messages ++ x.2.said b

/-- A call that could not be started enters nothing. -/
theorem enter_of_error (k : Ledger) {e : ToolError} (h : x.reply = .error e) :
    k.enter b now (f, x) = k := by
  simp [enter, Call.leave, Call.passes, Call.fails, Call.said, h]

/-- The files compiled are those whose calls have passed. -/
theorem compiled_foldl_enter (xs : List (PlannedFile × Call)) (k : Ledger) :
    (xs.foldl (enter b now) k).compiled =
      k.compiled ++ (xs.filter fun x => x.2.passes b).map (·.1.file.path) := by
  induction xs generalizing k with
  | nil => simp
  | cons x xs ih =>
    rw [List.foldl_cons, ih]
    cases hpasses : x.2.passes b <;> simp [enter, hpasses]

/-- The messages are those of all calls. -/
theorem messages_foldl_enter (xs : List (PlannedFile × Call)) (k : Ledger) :
    (xs.foldl (enter b now) k).messages = k.messages ++ xs.flatMap fun x => x.2.said b := by
  induction xs generalizing k with
  | nil => simp
  | cons x xs ih =>
    rw [List.foldl_cons, ih]
    simp [enter]

/-- The content is what the calls have left, one after the other. -/
theorem content_foldl_enter (xs : List (PlannedFile × Call)) (k : Ledger) :
    (xs.foldl (enter b now) k).content =
      xs.foldl (fun c x => x.2.leave b now x.1 c) k.content := by
  induction xs generalizing k with
  | nil => rfl
  | cons x xs ih => exact ih (k.enter b now x)

end Ledger

namespace Project

variable {ρ : Type} {b : Backend}

/-- **What a compile has given is settled as its call is entered.** -/
theorem ledger_settle (clock : Clock) (f : PlannedFile) {x : Call} {result : ToolResult}
    (h : x.reply = .ok result) (q : Progress ρ) :
    ((settle b clock f ⟨result, x.invocation.artifacts⟩).run q).2.ledger =
      q.ledger.enter b clock.now (f, x) := by
  unfold settle Ledger.enter Call.leave Call.remember Call.passes Call.fails Call.said
    Project.passes CacheContent.remember Progress.ledger
  cases hcancelled : result.wasCancelled
  · cases hsuccess : (b.classifier.classify result).verdict.isSuccess
    · simp [run_bind, h, hcancelled, hsuccess, BuildCache.content_forget]
    · cases f.fingerprint
      · simp [run_bind, h, hcancelled, hsuccess]
      · simp [run_bind, h, hcancelled, hsuccess, BuildCache.content_record]
  · simp [h, hcancelled]

end Project

end RtlFlow
