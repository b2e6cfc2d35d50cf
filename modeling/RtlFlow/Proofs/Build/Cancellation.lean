import RtlFlow.Proofs.Build.CapturedOutput
import RtlFlow.Proofs.Build.Verdicts
import RtlFlow.Proofs.Classification

/-! # Operations that are cancelled

Cancellation is noticed in front of every call and in the result of every call, and it ends the
operation at once: nothing is archived, however archiving is done, and the files are those that the
execution has left (`Project.cancelled_operate`). The operation has failed where it was executing,
with one exception. The result of the run of a target is classified before it is noticed that the
run was cancelled, and a run that was cancelled is classified as a failure, so that the operation is
said to have failed in classifying (`Project.not_forall_failedIn_executing`). -/

namespace RtlFlow

open OperationStep

/-- Whether a call has answered that it was cancelled. -/
def Call.wasCancelled (x : Call) : Bool :=
  match x.reply with
  | .ok result => result.wasCancelled
  | .error _ => false

/-- A compile that has passed was not cancelled. -/
theorem Call.wasCancelled_of_passes {b : Backend} {x : Call} (h : x.passes b = true) :
    x.wasCancelled = false := by
  unfold passes Project.passes at h
  unfold wasCancelled
  cases hreply : x.reply with
  | error e => rfl
  | ok result =>
    rw [hreply] at h
    simpa using (Bool.and_eq_true_iff.mp h).1

namespace Project

variable {ρ : Type} {p : Project} {run : Runner ρ} {b : Backend} {r : OperationRequest}
  {clock : Clock} {cache : BuildCache} {session : Session ρ} {ph : Phase} {e : Execution}

/-! ## Deciding on an execution that was cancelled -/

/-- **Where an execution that was cancelled is said to have failed.** -/
def stoppedIn (e : Execution) : BuildState := if e.compileFailed then .executing else .classifying

/-- The outcome of an operation of which the run that decides was cancelled. -/
def cutOff (b : Backend) (e : Execution) (one : ToolRun) (o : OperationOutcome) :
    OperationOutcome :=
  { o.enter .classifying with
    messages := o.messages ++ e.said b
    toolResult := some one.result
    failedIn := some (stoppedIn e) }

/-- The run of a target that was cancelled is no success. -/
theorem succeeds_of_wasCancelled {one : ToolRun} (hrun : e.run = some one)
    (hcancelled : one.result.wasCancelled = true) (ho : e.operation ≠ .compile) :
    e.succeeds b = false := by
  have hstatus : one.result.status = .cancelled := by
    simpa [ToolResult.wasCancelled] using hcancelled
  have hverdict := b.classifier.verdict_of_stopped (Or.inr hstatus)
  simp [Execution.succeeds, hrun, ho, hverdict, Verdict.isSuccess]

/-- **To decide on a run that was cancelled ends the operation.** A compile that was cancelled is
known to have failed before; the run of a target is classified first. -/
theorem run_classifyFor_of_wasCancelled {one : ToolRun} (hrun : e.run = some one)
    (hcancelled : one.result.wasCancelled = true)
    (hkind : e.compileFailed = true ∨ e.operation ≠ .compile) (q : Progress ρ) :
    (classifyFor b e).run q =
      (.error (.tool (.cancelled b.executable)),
        { q with outcome := cutOff b e one q.outcome }) := by
  unfold classifyFor enter
  rw [run_bind_of_ok (run_onOutcome _ _), run_bind_of_ok (run_onOutcome _ _), hrun]
  dsimp only
  rw [run_bind_of_ok (run_judge hrun _), run_bind, run_conclude, if_pos hcancelled]
  cases hfailed : e.compileFailed with
  | true => simp [cutOff, stoppedIn, hfailed, OperationOutcome.failedAt, OperationOutcome.enter]
  | false =>
    have ho : e.operation ≠ .compile := hkind.resolve_left (by simp [hfailed])
    have hsucceeds : e.succeeds b = false := succeeds_of_wasCancelled hrun hcancelled ho
    simp [cutOff, stoppedIn, hfailed, hsucceeds, OperationOutcome.failedAt,
      OperationOutcome.enter]

/-- To decide on a run that was not cancelled answers. -/
theorem exists_run_classifyFor (h : e.wasCancelled = false) (q : Progress ρ) :
    ∃ succeeded q', (classifyFor b e).run q = (.ok succeeded, q') := by
  unfold classifyFor enter
  rw [run_bind_of_ok (run_onOutcome _ _), run_bind_of_ok (run_onOutcome _ _)]
  cases hrun : e.run with
  | none => exact ⟨_, _, rfl⟩
  | some one =>
    have hcancelled : one.result.wasCancelled = false := by
      simpa [Execution.wasCancelled, hrun] using h
    dsimp only
    rw [run_bind_of_ok (run_judge hrun _), run_bind, run_conclude, if_neg (by simp [hcancelled])]
    exact ⟨_, _, rfl⟩

/-- Behind an execution that was not cancelled an operation is not cancelled. -/
theorem wasCancelled_of_finishFor {q : Progress ρ} {program : String}
    (h : ((p.finishFor b r clock e).run q).1 = .error (.tool (.cancelled program))) :
    e.wasCancelled = true := by
  by_contra hnot
  rw [Bool.not_eq_true] at hnot
  obtain ⟨succeeded, q', hrun⟩ := exists_run_classifyFor (b := b) hnot q
  have hfails : FailsOnly (fun err => err = .toolFailed e.operation.keyword e.subject) (do
      p.archiveFor r clock succeeded e
      if succeeded then onOutcome .succeed
      else throw (.toolFailed e.operation.keyword e.subject) : OperationStep ρ Unit) := by
    unfold archiveFor enter
    refine .bind (.bind (.onOutcome _) fun _ => ?_) fun _ => ?_
    · cases e.run with
      | none => exact .pure _
      | some one => exact .modify _
    · split
      · exact .onOutcome _
      · exact .throw rfl
  rw [finishFor, run_bind_of_ok hrun] at h
  cases hfails q' _ h

/-! ## Executions that were cancelled -/

/-- **An execution that was cancelled** ends with a compile that was, or with the run of a target
that was. -/
theorem LastRun.of_wasCancelled {plan : BuildPlan} {target : Option Target} {cancelled c c' : Bool}
    {files : List PlannedFile} {calls last : List Call}
    {x : Except BuildError (Execution ⊕ Option ToolRun)}
    (hloop : p.Compiling b r none cancelled files calls c x)
    (h : p.LastRun b r plan target x c last c' (.ok e)) (hcancelled : e.wasCancelled = true) :
    (e.compileFailed = true ∨ e.operation ≠ .compile) ∧
      last.any (·.wasCancelled) = !e.compileFailed := by
  have hgathers : HandsOn ([] ++ calls) x := hloop.handsOn rfl
  rw [List.nil_append] at hgathers
  cases h with
  | stopped e c =>
    have hfailed := (hloop.exists_of_inl rfl).1
    exact ⟨Or.inl hfailed, by simp [hfailed]⟩
  | compiled log h =>
    -- the log ends as the last compile does, which has passed
    exfalso
    obtain ⟨one, rfl, hone⟩ : ∃ one, log = some one ∧ one.result.wasCancelled = true := by
      simpa [Execution.wasCancelled, Option.any_eq_true] using hcancelled
    have hgathers : Gathers calls one.result := hgathers
    obtain ⟨y, hy, result, hreply, hstatus⟩ := hgathers.status
    have hpasses := (hloop.all_passed rfl).2 y (List.mem_of_getLast? hy)
    have hended := Call.wasCancelled_of_passes hpasses
    rw [ToolResult.wasCancelled, hstatus] at hone
    simp [Call.wasCancelled, hreply, ToolResult.wasCancelled, hone] at hended
  | ran log h result c subject =>
    have hresult : result.wasCancelled = true := hcancelled
    refine ⟨Or.inr fun ho => ?_, by simp [Call.wasCancelled, hresult]⟩
    have hkind : r.kind = .compile := ho
    cases target <;> simp [lastCall, hkind] at h

/-! ## Operations that archive in some way -/

/-- However it archives, an operation whose execution was cancelled ends as it does. -/
theorem operateWith_of_wasCancelled (a : Archiver) {q : Progress (ρ × List Call)}
    (h : p.phase r cache.content session.files = .ok ph)
    (hexecute : (p.executeFor run.observed ph.backend r clock ph.target ph.plan ph.filtered).run
      (ph.start cache session.observed) = (.ok e, q))
    {one : ToolRun} (hrun : e.run = some one) (hcancelled : one.result.wasCancelled = true)
    (hkind : e.compileFailed = true ∨ e.operation ≠ .compile) :
    operateWith a p run r clock cache session =
      Progress.plain { q with outcome :=
        (cutOff ph.backend e one q.outcome).fail (.tool (.cancelled ph.backend.executable)) } := by
  have hstages : stagesWith a p run r clock = stagesThen (finishWith a) p run r clock := rfl
  have hobserved := observes_executeFor p run ph.backend r clock ph.target ph.plan ph.filtered
    (ph.start cache session.observed)
  rw [hexecute] at hobserved
  have hplain : (p.executeFor run ph.backend r clock ph.target ph.plan ph.filtered).run
      (ph.start cache session) = (.ok e, q.plain) := hobserved
  rw [operateWith, hstages, run_stagesThen _ run clock h, run_bind_of_ok hplain, finishWith,
    run_bind_of_error (run_classifyFor_of_wasCancelled hrun hcancelled hkind _)]
  rfl

/-- However it archives, an operation whose execution ends in an error ends with it. -/
theorem operateWith_of_error (a : Archiver) {q : Progress (ρ × List Call)} {err : BuildError}
    (h : p.phase r cache.content session.files = .ok ph)
    (hexecute : (p.executeFor run.observed ph.backend r clock ph.target ph.plan ph.filtered).run
      (ph.start cache session.observed) = (.error err, q)) :
    operateWith a p run r clock cache session =
      Progress.plain { q with outcome := q.outcome.fail err } := by
  have hstages : stagesWith a p run r clock = stagesThen (finishWith a) p run r clock := rfl
  have hobserved := observes_executeFor p run ph.backend r clock ph.target ph.plan ph.filtered
    (ph.start cache session.observed)
  rw [hexecute] at hobserved
  have hplain : (p.executeFor run ph.backend r clock ph.target ph.plan ph.filtered).run
      (ph.start cache session) = (.error err, q.plain) := hobserved
  rw [operateWith, hstages, run_stagesThen _ run clock h, run_bind_of_error hplain]
  rfl

/-! ## Operations that are cancelled -/

/-- **The outcome of an operation that was cancelled**, by the calls behind those of the loop. -/
structure CutShort (o : OperationOutcome) (last : List Call) : Prop where
  /-- There is no bundle. -/
  archive : o.archive = none
  /-- None was tried to write. -/
  archiveError : o.archiveError = none
  /-- Archiving was not entered. -/
  unentered : .archiving ∉ o.transitions
  /-- It has failed in executing, unless the run of the target has answered that it was
  cancelled. -/
  failedIn : o.failedIn = some (if last.any (·.wasCancelled) then .classifying else .executing)

/-- An executing operation that ends in an error is cut short, when no call behind the loop has
answered that it was cancelled. -/
theorem cutShort_of_error {o : OperationOutcome} (h : o.IsExecuting) (err : BuildError)
    {last : List Call} (hquiet : last.any (·.wasCancelled) = false) :
    CutShort (o.fail err) last where
  archive := h.archive
  archiveError := h.archiveError
  unentered := by
    simp [OperationOutcome.fail, OperationOutcome.enter, OperationOutcome.failedAt, h.transitions]
  failedIn := by
    simp [OperationOutcome.fail, OperationOutcome.enter, OperationOutcome.failedAt, h.failedIn,
      h.state, hquiet]

/-- An executing operation is cut short when the run that decides was cancelled. -/
theorem cutShort_of_wasCancelled {o : OperationOutcome} (h : o.IsExecuting) (one : ToolRun)
    (err : BuildError) {last : List Call} (hany : last.any (·.wasCancelled) = !e.compileFailed) :
    CutShort ((cutOff b e one o).fail err) last where
  archive := h.archive
  archiveError := h.archiveError
  unentered := by
    simp [OperationOutcome.fail, OperationOutcome.enter, OperationOutcome.failedAt, cutOff,
      h.transitions]
  failedIn := by
    rw [hany]
    cases hfailed : e.compileFailed <;>
      simp [OperationOutcome.fail, OperationOutcome.enter, OperationOutcome.failedAt, cutOff,
        stoppedIn, hfailed]

/-- **The error of an operation whose execution has none** comes from behind the execution. -/
theorem finishFor_of_error {q : Progress (ρ × List Call)} {err : BuildError}
    (h : p.phase r cache.content session.files = .ok ph)
    (hexecute : (p.executeFor run.observed ph.backend r clock ph.target ph.plan ph.filtered).run
      (ph.start cache session.observed) = (.ok e, q))
    (herror : (p.operate run r clock cache session).outcome.error = some err) :
    ((p.finishFor ph.backend r clock e).run q).1 = .error err := by
  have hnone := (isExecuting_of_executeFor hexecute).error
  have hkeeps := keeps_finishFor p ph.backend r clock e q
  rw [operate_of_execution_ok run clock h hexecute] at herror
  rcases hrun : (p.finishFor ph.backend r clock e).run q with ⟨err' | u, q'⟩ <;>
    rw [hrun] at herror hkeeps
  · exact congrArg Except.error (Option.some.inj herror)
  · have hsame : q'.outcome.error = none := (congrArg (·.2.2.2.1) hkeeps).trans hnone
    have hsome : q'.outcome.error = some err := herror
    simp [hsame] at hsome

/-- **A cancelled operation ends where it is**, whatever it was asked for and whenever it was
cancelled: it archives nothing, and is the same however outputs are archived, so that the files are
those that the execution has left. It has failed in executing when cancellation was noticed in front
of a call, when a compile was cancelled, and when a call did not start for it, and in classifying
when the run of the target was cancelled. -/
theorem cancelled_operate (p : Project) (run : Runner ρ) (r : OperationRequest) (clock : Clock)
    (cache : BuildCache) (session : Session ρ) {program : String}
    (h : (p.operate run r clock cache session).outcome.error =
      some (.tool (.cancelled program))) :
    ∃ last, p.callsOf run r clock cache session =
        p.compileCallsOf run r clock cache session ++ last ∧
      CutShort (p.operate run r clock cache session).outcome last ∧
      ∀ a, operateWith a p run r clock cache session = p.operate run r clock cache session := by
  cases hphase : p.phase r cache.content session.files with
  | error e =>
    obtain ⟨name, ho⟩ := operate_of_error run clock hphase
    rw [ho] at h
    obtain rfl : e = .tool (.cancelled program) := Option.some.inj h
    exact absurd (isStructural_of_phase hphase) (by simp [BuildError.isStructural])
  | ok ph =>
    obtain ⟨c, x, last, answer, q, hexecute, hcalls, hloop, hlast, -⟩ :=
      exists_execution run clock hphase
    have hall := (calls_operate_of_execution run clock hphase hexecute).1
    refine ⟨last, hall.trans hcalls, ?_⟩
    cases answer with
    | error err =>
      -- executing itself has ended in the error
      have hwith := fun a => operateWith_of_error a hphase hexecute
      rw [← operateWith_archiver, hwith]
      obtain ⟨e, -, -, -, hreplies⟩ := hlast.interrupts hphase hloop
      have hquiet : last.any (·.wasCancelled) = false := by
        rw [List.any_eq_false]
        intro y hy
        simp [Call.wasCancelled, hreplies y hy]
      exact ⟨cutShort_of_error (isExecuting_of_executeFor hexecute) err hquiet, hwith⟩
    | ok e =>
      -- the run that decides was cancelled
      have hcancelled := wasCancelled_of_finishFor (finishFor_of_error hphase hexecute h)
      obtain ⟨hkind, hany⟩ := hlast.of_wasCancelled hloop hcancelled
      obtain ⟨one, hrun, hone⟩ : ∃ one, e.run = some one ∧ one.result.wasCancelled = true := by
        simpa [Execution.wasCancelled, Option.any_eq_true] using hcancelled
      have hwith := fun a => operateWith_of_wasCancelled a hphase hexecute hrun hone hkind
      rw [← operateWith_archiver, hwith]
      exact ⟨cutShort_of_wasCancelled (isExecuting_of_executeFor hexecute) one _ hany, hwith⟩

/-- A runner that answers with the endings of its state, one after the other, and then exits
well. -/
def endingRunner : Runner (List ToolStatus) := fun _ s =>
  (.ok ⟨s.runner.head?.getD (.exited 0), "", "", ⟨0, 0⟩⟩, { s with runner := s.runner.tail })

/-- A simulation of the project of two files, whose runs end in some ways. -/
def simulateEnding (endings : List ToolStatus) : Progress (List ToolStatus) :=
  pair.operate endingRunner ⟨.simulate, some "work.top", none, {}⟩ ⟨⟨"now"⟩, "now"⟩ .inMemory
    ⟨pairFiles, false, endings⟩

/-- When the second compile is cancelled the simulation has failed in executing, and when its own
run is cancelled it has failed in classifying. -/
theorem cancelled_operate_pair :
    ((simulateEnding [.exited 0, .cancelled]).outcome.failedIn = some .executing ∧
        .archiving ∉ (simulateEnding [.exited 0, .cancelled]).outcome.transitions) ∧
      (simulateEnding [.exited 0, .exited 0, .cancelled]).outcome.archive = none ∧
      (simulateEnding [.exited 0, .exited 0, .cancelled]).outcome.failedIn = some .classifying := by
  have herror : ∀ endings ∈ [[.exited 0, .cancelled], [.exited 0, .exited 0, .cancelled]],
      (simulateEnding endings).outcome.error = some (.tool (.cancelled "sim")) := by
    decide +kernel
  obtain ⟨_, -, hcompile, -⟩ := cancelled_operate pair endingRunner _ _ _ _
    (herror [.exited 0, .cancelled] (by simp))
  obtain ⟨_, -, htarget, -⟩ := cancelled_operate pair endingRunner _ _ _ _
    (herror [.exited 0, .exited 0, .cancelled] (by simp))
  refine ⟨⟨?_, hcompile.unentered⟩, htarget.archive, ?_⟩ <;> decide +kernel

/-- **Operations that are cancelled have failed in executing.** -/
def FailedInExecuting : Prop :=
  ∀ (ρ : Type) (p : Project) (run : Runner ρ) (r : OperationRequest) (clock : Clock)
    (cache : BuildCache) (session : Session ρ) (program : String), p.catalog.Registered →
      (p.operate run r clock cache session).outcome.error = some (.tool (.cancelled program)) →
        (p.operate run r clock cache session).outcome.failedIn = some .executing

/-- **A simulation whose own run is cancelled has failed in classifying.** -/
theorem not_forall_failedIn_executing : ¬ FailedInExecuting := by
  intro h
  have hexecuting := h _ pair endingRunner ⟨.simulate, some "work.top", none, {}⟩ ⟨⟨"now"⟩, "now"⟩
    .inMemory ⟨pairFiles, false, [.exited 0, .exited 0, .cancelled]⟩ "sim" registered_pair
    (by decide +kernel)
  have hclassifying : (simulateEnding [.exited 0, .exited 0, .cancelled]).outcome.failedIn =
      some .classifying := by
    decide +kernel
  have hsame := hclassifying.symm.trans hexecuting
  cases hsame

end Project

end RtlFlow
