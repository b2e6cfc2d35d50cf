import RtlFlow.Proofs.Build.Ledger

/-! # The calls of an operation

The calls of an operation are those of the loop over its files, with at most one more behind them.
`Compiling` says which calls the loop makes, with one case for every way in which it comes to its
end, and `LastRun` which call is made behind it. Nothing before and nothing behind the execution
calls the runner (`Project.exists_lastRun_callsOf`, `Project.operate_of_error`). -/

namespace RtlFlow

open OperationStep

namespace OperationStep

variable {ρ : Type}

/-- An invocation that could not be made is not called. -/
theorem run_ofRun_of_error (run : Runner ρ) {limit : Option Duration}
    {made : Except ToolError Invocation} {e : ToolError}
    (h : made.map (·.within limit) = .error e) (q : Progress ρ) :
    (ofRun (run.execute limit made)).run q = (.error (.tool e), q) := by
  rw [run_ofRun_execute, h]

/-- **A run of a tool with an observed runner is one call.** -/
theorem run_ofRun_observed (run : Runner ρ) {limit : Option Duration}
    {made : Except ToolError Invocation} {i : Invocation} (h : made.map (·.within limit) = .ok i)
    (q : Progress (ρ × List Call)) :
    ∃ reply q', (ofRun (run.observed.execute limit made)).run q =
        (match reply with
          | .error e => .error (.tool e)
          | .ok result => .ok ⟨result, i.artifacts⟩, q') ∧
      q'.calls = q.calls ++ [⟨i, q.session.cancelled, reply, q'.session.cancelled⟩] ∧
      q'.ledger = q.ledger := by
  rw [run_ofRun_execute, h]
  simp only [Runner.observed]
  rcases run i q.session.plain with ⟨e | result, s⟩
  · exact ⟨.error e, _, rfl, rfl, rfl⟩
  · exact ⟨.ok result, _, rfl, rfl, rfl⟩

end OperationStep

/-- **The outcome of an operation that is executing**: it has come to this state, and it has neither
failed nor anything to show. -/
structure OperationOutcome.IsExecuting (o : OperationOutcome) : Prop where
  /-- It is in this state. -/
  state : o.state = .executing
  /-- It has come to it through those before. -/
  transitions : o.transitions = [.planning, .filtering, .executing]
  /-- It has failed in no state. -/
  failedIn : o.failedIn = none
  /-- It has no error. -/
  error : o.error = none
  /-- No run has decided. -/
  toolResult : o.toolResult = none
  /-- There is no bundle. -/
  archive : o.archive = none
  /-- None was tried to write. -/
  archiveError : o.archiveError = none

namespace Project

variable {ρ : Type} {p : Project} {run : Runner ρ} {b : Backend} {r : OperationRequest}
  {clock : Clock} {cache : BuildCache} {session : Session ρ}

/-! ## Invocations of an operation -/

/-- **The invocation that compiles a file**, or why there is none. -/
def compileCall (p : Project) (b : Backend) (r : OperationRequest) (f : SourceFile) :
    Except ToolError Invocation :=
  (b.prepareCompile ⟨f, p.options.workDir r.kind, p.includesFor b r⟩).map
    (·.within p.options.compileTimeout)

/-- The invocation that simulates a target, or why there is none. -/
def simulateCall (p : Project) (b : Backend) (r : OperationRequest) (plan : BuildPlan)
    (target : Target) : Except ToolError Invocation :=
  (b.prepareSimulate {
    library := target.library
    entity := target.entity
    generics := p.genericsOf r
    duration := r.overrides.duration
    files := plan.files
    includes := p.includesFor b r
    workDir := p.options.workDir r.kind }).map
    (·.within (r.overrides.timeout.or p.options.simulateTimeout))

/-- The invocation that synthesizes a target, or why there is none. -/
def synthesizeCall (p : Project) (b : Backend) (r : OperationRequest) (plan : BuildPlan)
    (target : Target) : Except ToolError Invocation :=
  (b.prepareSynthesize r.overrides.flow {
    library := target.library
    entity := target.entity
    generics := p.genericsOf r
    constraints := p.catalog.constraints
    part := r.overrides.part.or p.options.part
    files := plan.files.filter (·.synthesize)
    workDir := p.options.workDir r.kind }).map
    (·.within (r.overrides.timeout.or p.options.synthesizeTimeout))

/-- **The invocation behind the compiles**, or why there is none, for an operation that has one. -/
def lastCall (p : Project) (b : Backend) (r : OperationRequest) (plan : BuildPlan) :
    Option Target → Option (Except ToolError Invocation)
  | none => none
  | some target =>
    match r.kind with
    | .compile => none
    | .simulate => some (p.simulateCall b r plan target)
    | .synthesize => some (p.synthesizeCall b r plan target)

/-! ## The loop -/

/-- **What the loop over files does** from a log and a request for cancellation on: the calls that
it makes, whether cancellation has been asked for at its end, and its answer. -/
inductive Compiling (p : Project) (b : Backend) (r : OperationRequest) :
    Option ToolRun → Bool → List PlannedFile → List Call → Bool →
      Except BuildError (Execution ⊕ Option ToolRun) → Prop
  /-- There is no file left. -/
  | done (log : Option ToolRun) (cancelled : Bool) :
      Compiling p b r log cancelled [] [] cancelled (.ok (.inr log))
  /-- Cancellation has been asked for. -/
  | cancelled (log : Option ToolRun) (f : PlannedFile) (files : List PlannedFile) :
      Compiling p b r log true (f :: files) [] true (.error (.tool (.cancelled b.executable)))
  /-- There is no invocation for the next file. -/
  | refused (log : Option ToolRun) {f : PlannedFile} (files : List PlannedFile) {e : ToolError}
      (h : p.compileCall b r f.file = .error e) :
      Compiling p b r log false (f :: files) [] false (.error (.tool e))
  /-- The compile of the next file does not start. -/
  | notStarted (log : Option ToolRun) {f : PlannedFile} (files : List PlannedFile) {i : Invocation}
      (h : p.compileCall b r f.file = .ok i) (e : ToolError) (c : Bool) :
      Compiling p b r log false (f :: files) [⟨i, false, .error e, c⟩] c (.error (.tool e))
  /-- The compile of the next file does not pass. -/
  | stopped (log : Option ToolRun) {f : PlannedFile} (files : List PlannedFile) {i : Invocation}
      (h : p.compileCall b r f.file = .ok i) {result : ToolResult} (c : Bool)
      (hpasses : passes b ⟨result, i.artifacts⟩ = false) :
      Compiling p b r log false (f :: files) [⟨i, false, .ok result, c⟩] c
        (.ok (.inl (stoppedAt f.file (ToolRun.after log ⟨result, i.artifacts⟩))))
  /-- The compile of the next file passes, and the loop goes on. -/
  | passed (log : Option ToolRun) {f : PlannedFile} {files : List PlannedFile} {i : Invocation}
      (h : p.compileCall b r f.file = .ok i) {result : ToolResult} {c c' : Bool}
      (hpasses : passes b ⟨result, i.artifacts⟩ = true) {calls : List Call}
      {answer : Except BuildError (Execution ⊕ Option ToolRun)}
      (hrest : Compiling p b r (some (ToolRun.after log ⟨result, i.artifacts⟩)) c files calls c'
        answer) :
      Compiling p b r log false (f :: files) (⟨i, false, .ok result, c⟩ :: calls) c' answer

/-- **The calls of the loop are compiles of its first files, and all have passed, except perhaps the
last one.** -/
theorem Compiling.exists_zip_eq {log : Option ToolRun} {cancelled c : Bool}
    {files : List PlannedFile} {calls : List Call}
    {answer : Except BuildError (Execution ⊕ Option ToolRun)}
    (h : p.Compiling b r log cancelled files calls c answer) :
    ∃ passed last, files.zip calls = passed ++ last ∧ (passed ++ last).map (·.2) = calls ∧
      (passed ++ last).map (·.1) <+: files ∧
      (∀ x ∈ passed ++ last, p.compileCall b r x.1.file = .ok x.2.invocation) ∧
      last.length ≤ 1 ∧ (∀ x ∈ passed, x.2.passes b = true) ∧ ∀ x ∈ last, x.2.passes b = false := by
  induction h with
  | done log cancelled => exact ⟨[], [], by simp⟩
  | cancelled log f files => exact ⟨[], [], by simp⟩
  | refused log files h => exact ⟨[], [], by simp⟩
  | @notStarted log f files i h e c =>
    exact ⟨[], [(f, ⟨i, false, .error e, c⟩)], by simp [h, Call.passes]⟩
  | @stopped log f files i h result c hpasses =>
    exact ⟨[], [(f, ⟨i, false, .ok result, c⟩)], by simp [h, Call.passes, hpasses]⟩
  | @passed log f files i h result c c' hpasses calls answer hrest ih =>
    obtain ⟨passed, last, hzip, hcalls, hfiles, hmade, hlast, hpassed, hnot⟩ := ih
    refine ⟨(f, ⟨i, false, .ok result, c⟩) :: passed, last, by simp [hzip], by simp [← hcalls],
      by simpa using hfiles, ?_, hlast, ?_, hnot⟩
    · intro x hx
      rcases List.mem_cons.mp hx with rfl | hx
      · exact h
      · exact hmade x hx
    · intro x hx
      rcases List.mem_cons.mp hx with rfl | hx
      · exact hpasses
      · exact hpassed x hx

/-- **A loop that comes to its end has compiled all files**, and each has passed. -/
theorem Compiling.all_passed {log : Option ToolRun} {cancelled c : Bool}
    {files : List PlannedFile} {calls : List Call}
    {answer : Except BuildError (Execution ⊕ Option ToolRun)}
    (h : p.Compiling b r log cancelled files calls c answer) {log' : Option ToolRun}
    (hanswer : answer = .ok (.inr log')) :
    calls.length = files.length ∧ ∀ x ∈ calls, x.passes b = true := by
  induction h with
  | done => exact ⟨rfl, by simp⟩
  | cancelled => simp at hanswer
  | refused => simp at hanswer
  | notStarted => simp at hanswer
  | stopped => simp at hanswer
  | passed log h hpasses hrest ih =>
    obtain ⟨hlength, hall⟩ := ih hanswer
    refine ⟨by simp [hlength], fun x hx => ?_⟩
    rcases List.mem_cons.mp hx with rfl | hx
    · exact hpasses
    · exact hall x hx

/-- What a compile has given is settled without the runner, and in the outcome it is entered among
the files compiled and the messages only. -/
theorem keeps_settle (b : Backend) (clock : Clock) (f : PlannedFile) (one : ToolRun) :
    Keeps (fun q => (q.session.cancelled, q.session.runner,
        { q.outcome with compiled := [], messages := [] }))
      (settle b clock f one : OperationStep ρ Unit) := by
  unfold settle
  split
  · refine .bind (.onOutcome fun _ => rfl) fun _ => ?_
    split
    · split
      · exact .bind (.onCache _ fun _ _ _ => rfl) fun _ => .onOutcome fun _ => rfl
      · exact .onOutcome fun _ => rfl
    · exact .onCache _ fun _ _ _ => rfl
  · exact .pure _

/-- A file that there is no invocation for is not compiled. -/
theorem run_compileOne_of_error {f : PlannedFile} {e : ToolError}
    (h : p.compileCall b r f.file = .error e) {q : Progress ρ} (hq : q.session.cancelled = false) :
    (p.compileOne run b r clock f).run q = (.error (.tool e), q) := by
  unfold compileOne
  rw [run_bind_of_ok (show (stopIfCancelled b).run q = (.ok (), q) by
    rw [run_stopIfCancelled, hq, if_neg (by simp)])]
  exact run_bind_of_error (run_ofRun_of_error run h q)

/-- **The compile of a file is one call**, which is entered in the ledger, unless cancellation has
been asked for. -/
theorem run_compileOne_observed (run : Runner ρ) (clock : Clock) {f : PlannedFile} {i : Invocation}
    (h : p.compileCall b r f.file = .ok i) {q : Progress (ρ × List Call)}
    (hq : q.session.cancelled = false) :
    ∃ reply q', (p.compileOne run.observed b r clock f).run q =
        (match reply with
          | .error e => .error (.tool e)
          | .ok result => .ok ⟨result, i.artifacts⟩, q') ∧
      q'.calls = q.calls ++ [⟨i, false, reply, q'.session.cancelled⟩] ∧
      q'.ledger = q.ledger.enter b clock.now (f, ⟨i, false, reply, q'.session.cancelled⟩) := by
  unfold compileOne
  rw [run_bind_of_ok (show (stopIfCancelled b).run q = (.ok (), q) by
    rw [run_stopIfCancelled, hq, if_neg (by simp)])]
  obtain ⟨reply, q', hrun, hcalls, hledger⟩ := run_ofRun_observed run h q
  rw [hq] at hcalls
  cases reply with
  | error e =>
    exact ⟨.error e, q', run_bind_of_error hrun, hcalls,
      hledger.trans (Ledger.enter_of_error _ rfl).symm⟩
  | ok result =>
    refine ⟨.ok result, ((settle b clock f ⟨result, i.artifacts⟩).run q').2, ?_, ?_, ?_⟩
    · have hsettle := run_settle_fst b clock f ⟨result, i.artifacts⟩ q'
      exact (run_bind_of_ok hrun).trans (run_bind_of_ok (Prod.ext hsettle rfl))
    · have hkeeps := keeps_settle b clock f ⟨result, i.artifacts⟩ q'
      simp only [Prod.mk.injEq] at hkeeps
      obtain ⟨hcancelled, hrunner, -⟩ := hkeeps
      rw [Progress.calls, hrunner, hcancelled]
      exact hcalls
    · rw [← hledger]
      exact ledger_settle clock f rfl q'

/-- **The loop makes the calls that `Compiling` says** and enters them in the ledger, and without a
call nothing has changed. -/
theorem exists_compiling (p : Project) (run : Runner ρ) (b : Backend) (r : OperationRequest)
    (clock : Clock) (log : Option ToolRun) (files : List PlannedFile)
    (q : Progress (ρ × List Call)) :
    ∃ calls answer q', (p.compileAll run.observed b r clock log files).run q = (answer, q') ∧
      q'.calls = q.calls ++ calls ∧
      p.Compiling b r log q.session.cancelled files calls q'.session.cancelled answer ∧
      q'.ledger = (files.zip calls).foldl (Ledger.enter b clock.now) q.ledger ∧
      (calls = [] → q' = q) := by
  induction files generalizing log q with
  | nil => exact ⟨[], _, q, rfl, by simp, .done log _, rfl, fun _ => rfl⟩
  | cons f files ih =>
    unfold compileAll
    cases hq : q.session.cancelled with
    | true =>
      have hstop : (p.compileOne run.observed b r clock f).run q =
          (.error (.tool (.cancelled b.executable)), q) :=
        run_bind_of_error (by rw [run_stopIfCancelled, hq, if_pos rfl])
      refine ⟨[], _, q, run_bind_of_error hstop, by simp, ?_, rfl, fun _ => rfl⟩
      rw [hq]
      exact .cancelled log f files
    | false =>
      cases hcall : p.compileCall b r f.file with
      | error e =>
        refine ⟨[], _, q, run_bind_of_error (run_compileOne_of_error hcall hq), by simp, ?_,
          rfl, fun _ => rfl⟩
        rw [hq]
        exact .refused log files hcall
      | ok i =>
        obtain ⟨reply, q', hrun, hcalls, hledger⟩ := run_compileOne_observed run clock hcall hq
        cases reply with
        | error e =>
          exact ⟨_, _, q', run_bind_of_error hrun, hcalls, .notStarted log files hcall e _,
            by simpa using hledger, by simp⟩
        | ok result =>
          rw [run_bind_of_ok hrun]
          cases hpasses : passes b ⟨result, i.artifacts⟩ with
          | false =>
            exact ⟨_, _, q', by simp, hcalls, .stopped log files hcall _ hpasses,
              by simpa using hledger, by simp⟩
          | true =>
            obtain ⟨calls, answer, q'', hrest, hmore, hcompiling, hbooked, -⟩ :=
              ih (some (ToolRun.after log ⟨result, i.artifacts⟩)) q'
            refine ⟨_, answer, q'', by simpa using hrest, ?_, .passed log hcall hpasses hcompiling,
              ?_, by simp⟩
            · rw [hmore, hcalls, List.append_assoc]
              rfl
            · rw [hbooked, hledger]
              rfl

/-! ## Behind the loop -/

/-- **What comes behind the loop over the files**, by its answer and whether cancellation has been
asked for: the call that is made, if there is one, and what executing gives. -/
inductive LastRun (p : Project) (b : Backend) (r : OperationRequest) (plan : BuildPlan)
    (target : Option Target) : Except BuildError (Execution ⊕ Option ToolRun) → Bool →
      List Call → Bool → Except BuildError Execution → Prop
  /-- The loop has ended in an error. -/
  | failed (e : BuildError) (c : Bool) : LastRun p b r plan target (.error e) c [] c (.error e)
  /-- A compile has not passed. -/
  | stopped (e : Execution) (c : Bool) : LastRun p b r plan target (.ok (.inl e)) c [] c (.ok e)
  /-- Cancellation has been asked for. -/
  | cancelled (log : Option ToolRun) :
      LastRun p b r plan target (.ok (.inr log)) true [] true
        (.error (.tool (.cancelled b.executable)))
  /-- Nothing comes behind the compiles. -/
  | compiled (log : Option ToolRun) (h : p.lastCall b r plan target = none) :
      LastRun p b r plan target (.ok (.inr log)) false [] false
        (.ok ⟨log, .compile, "project", false⟩)
  /-- There is no invocation for the target. -/
  | refused (log : Option ToolRun) {e : ToolError}
      (h : p.lastCall b r plan target = some (.error e)) :
      LastRun p b r plan target (.ok (.inr log)) false [] false (.error (.tool e))
  /-- The run of the target does not start. -/
  | notStarted (log : Option ToolRun) {i : Invocation}
      (h : p.lastCall b r plan target = some (.ok i)) (e : ToolError) (c : Bool) :
      LastRun p b r plan target (.ok (.inr log)) false [⟨i, false, .error e, c⟩] c
        (.error (.tool e))
  /-- The target is run. -/
  | ran (log : Option ToolRun) {i : Invocation} (h : p.lastCall b r plan target = some (.ok i))
      (result : ToolResult) (c : Bool) (subject : String) :
      LastRun p b r plan target (.ok (.inr log)) false [⟨i, false, .ok result, c⟩] c
        (.ok ⟨some ⟨result, i.artifacts⟩, r.kind, subject, false⟩)

/-- The run of a target is the call that comes behind the loop. -/
theorem exists_lastRun_of_some (run : Runner ρ) {target : Option Target} {plan : BuildPlan}
    {limit : Option Duration} {made : Except ToolError Invocation}
    (h : p.lastCall b r plan target = some (made.map (·.within limit))) {o : Operation}
    (ho : r.kind = o) (log : Option ToolRun) (subject : String) {q : Progress (ρ × List Call)}
    (hq : q.session.cancelled = false) :
    ∃ last answer q', (do
          let one ← ofRun (run.observed.execute limit made)
          return (⟨some one, o, subject, false⟩ : Execution)).run q = (answer, q') ∧
      q'.calls = q.calls ++ last ∧
      p.LastRun b r plan target (.ok (.inr log)) q.session.cancelled last q'.session.cancelled
        answer ∧
      (last = [] → q' = q) := by
  subst ho
  rw [hq]
  cases hmade : made.map (·.within limit) with
  | error e =>
    rw [hmade] at h
    refine ⟨[], _, q, run_bind_of_error (run_ofRun_of_error run.observed hmade q), by simp, ?_,
      fun _ => rfl⟩
    rw [hq]
    exact .refused log h
  | ok i =>
    rw [hmade] at h
    obtain ⟨reply, q', hrun, hcalls, -⟩ := run_ofRun_observed run hmade q
    rw [hq] at hcalls
    cases reply with
    | error e => exact ⟨_, _, q', run_bind_of_error hrun, hcalls, .notStarted log h e _, by simp⟩
    | ok result =>
      exact ⟨_, _, q', run_bind_of_ok hrun, hcalls, .ran log h result _ subject, by simp⟩

/-- **Behind the loop at most one call is made**, as `LastRun` says, and without it nothing has
changed. -/
theorem exists_lastRun (p : Project) (run : Runner ρ) (b : Backend) (r : OperationRequest)
    (clock : Clock) (target : Option Target) (plan : BuildPlan) (filtered : FilteredPlan)
    {q q' : Progress (ρ × List Call)} {x : Except BuildError (Execution ⊕ Option ToolRun)}
    (hloop : (p.compileAll run.observed b r clock none filtered.toBuild).run q = (x, q')) :
    ∃ last answer q'', (p.executeFor run.observed b r clock target plan filtered).run q =
        (answer, q'') ∧
      q''.calls = q'.calls ++ last ∧
      p.LastRun b r plan target x q'.session.cancelled last q''.session.cancelled answer ∧
      (last = [] → q'' = q') := by
  unfold executeFor
  rcases x with e | stopped | log
  · exact ⟨[], _, q', run_bind_of_error hloop, by simp, .failed e _, fun _ => rfl⟩
  · exact ⟨[], _, q', run_bind_of_ok hloop, by simp, .stopped stopped _, fun _ => rfl⟩
  rw [run_bind_of_ok hloop]
  dsimp only
  by_cases hq : q'.session.cancelled = true
  · have hstop : (stopIfCancelled b).run q' = (.error (.tool (.cancelled b.executable)), q') := by
      rw [run_stopIfCancelled, if_pos hq]
    refine ⟨[], _, q', run_bind_of_error hstop, by simp, ?_, fun _ => rfl⟩
    rw [hq]
    exact .cancelled log
  · have hgo : (stopIfCancelled b).run q' = (.ok (), q') := by rw [run_stopIfCancelled, if_neg hq]
    have hq : q'.session.cancelled = false := by simpa using hq
    rw [run_bind_of_ok hgo]
    -- only a simulation and a synthesis of a target have a run behind the loop
    have hcompiled (h : p.lastCall b r plan target = none) :
        ∃ last answer q'', (pure ⟨log, .compile, "project", false⟩ :
            OperationStep (ρ × List Call) Execution).run q' = (answer, q'') ∧
          q''.calls = q'.calls ++ last ∧
          p.LastRun b r plan target (.ok (.inr log)) q'.session.cancelled last
            q''.session.cancelled answer ∧ (last = [] → q'' = q') := by
      refine ⟨[], _, q', rfl, by simp, ?_, fun _ => rfl⟩
      rw [hq]
      exact .compiled log h
    rcases target with - | target
    · cases r.kind <;> exact hcompiled rfl
    · cases hkind : r.kind with
      | compile => exact hcompiled (by simp [lastCall, hkind])
      | simulate =>
        have hlast : p.lastCall b r plan (some target) = some (p.simulateCall b r plan target) := by
          simp [lastCall, hkind]
        exact exists_lastRun_of_some run hlast hkind log target.render hq
      | synthesize =>
        have hlast : p.lastCall b r plan (some target) =
            some (p.synthesizeCall b r plan target) := by
          simp [lastCall, hkind]
        exact exists_lastRun_of_some run hlast hkind log target.render hq

/-! ## Errors of an operation -/

theorem keeps_outcome_compileAll (p : Project) (run : Runner ρ) (b : Backend)
    (r : OperationRequest) (clock : Clock) (log : Option ToolRun) (files : List PlannedFile) :
    Keeps (fun q => { q.outcome with compiled := [], messages := [] })
      (p.compileAll run b r clock log files) := by
  induction files generalizing log with
  | nil => exact .pure _
  | cons f files ih =>
    refine .bind (.bind (keeps_stopIfCancelled b) fun _ => .bind (.ofRun (fun _ _ => rfl) _)
      fun one => .bind (fun q => congrArg (·.2.2) (keeps_settle b clock f one q)) fun _ => .pure _)
      fun one => ?_
    dsimp only
    split
    · exact ih _
    · exact .pure _

/-- **Executing changes nothing in the outcome** but the files compiled and the messages. -/
theorem keeps_outcome_executeFor (p : Project) (run : Runner ρ) (b : Backend)
    (r : OperationRequest) (clock : Clock) (target : Option Target) (plan : BuildPlan)
    (filtered : FilteredPlan) :
    Keeps (fun q => { q.outcome with compiled := [], messages := [] })
      (p.executeFor run b r clock target plan filtered) := by
  refine .bind (keeps_outcome_compileAll p run b r clock none _) fun x => ?_
  cases x with
  | inl stopped => exact .pure _
  | inr log =>
    refine .bind (keeps_stopIfCancelled b) fun _ => ?_
    split
    · exact .bind (.ofRun (fun _ _ => rfl) _) fun _ => .pure _
    · exact .bind (.ofRun (fun _ _ => rfl) _) fun _ => .pure _
    · exact .pure _

/-- Behind the execution an operation ends in no error but that its last run was cancelled or is
classified as a failure. -/
theorem failsOnly_finishFor (p : Project) (b : Backend) (r : OperationRequest) (clock : Clock)
    (e : Execution) :
    FailsOnly (fun err => err = .tool (.cancelled b.executable) ∨
        err = .toolFailed e.operation.keyword e.subject)
      (p.finishFor b r clock e : OperationStep ρ Unit) := by
  unfold finishFor classifyFor archiveFor judge conclude enter
  refine .bind (.bind (.onOutcome _) fun _ => .bind (.onOutcome _) fun _ => ?_) fun succeeded =>
    .bind (.bind (.onOutcome _) fun _ => ?_) fun _ => ?_
  · cases e.run with
    | none => exact .pure _
    | some one =>
      refine .bind ?_ fun _ => .bind (.bind (.onOutcome _) fun _ => ?_) fun _ => .pure _
      · split
        · exact .pure _
        · exact .bind (.onOutcome _) fun _ => .pure _
      · split
        · exact .bind (.onOutcome _) fun _ => .throw (Or.inl rfl)
        · exact .pure _
  · cases e.run with
    | none => exact .pure _
    | some one => exact .modify _
  · split
    · exact .onOutcome _
    · exact .throw (Or.inr rfl)

/-- **The error of an operation with a phase** is that of its execution, or it is about its last
run. -/
theorem error_operate (run : Runner ρ) (clock : Clock) {ph : Phase}
    (h : p.phase r cache.content session.files = .ok ph) {e : BuildError}
    (he : (p.operate run r clock cache session).outcome.error = some e) :
    ((p.executeFor run ph.backend r clock ph.target ph.plan ph.filtered).run
        (ph.start cache session)).1 = .error e ∨
      e = .tool (.cancelled ph.backend.executable) ∨ ∃ o subject, e = .toolFailed o subject := by
  have hsettled := settled_stages run clock h
  rw [operate_eq, run_stages run clock h] at he
  rw [run_stages run clock h] at hsettled
  have hstart := congrArg OperationOutcome.error (keeps_outcome_executeFor p run ph.backend r clock
    ph.target ph.plan ph.filtered (ph.start cache session))
  rw [run_bind] at he hsettled
  rcases hrun : (p.executeFor run ph.backend r clock ph.target ph.plan ph.filtered).run
    (ph.start cache session) with ⟨e' | execution, q⟩
  · rw [hrun] at he
    exact Or.inl (congrArg Except.error (Option.some.inj he))
  · rw [hrun] at he hsettled hstart
    have hfails := failsOnly_finishFor p ph.backend r clock execution q
    dsimp only at he hsettled
    rcases hfinish : (p.finishFor ph.backend r clock execution).run q with ⟨e' | u, q'⟩
    · rw [hfinish] at he hfails
      obtain rfl := Option.some.inj he
      rcases hfails e' rfl with hcancelled | hfailed
      · exact Or.inr (Or.inl hcancelled)
      · exact Or.inr (Or.inr ⟨_, _, hfailed⟩)
    · -- an operation that ends well has the error with which its execution began
      rw [hfinish] at he hsettled
      have hnone : q'.outcome.error = none := by
        have herror : q'.outcome.error = q.outcome.error := congrArg (·.2.2.2.1) hsettled
        exact herror.trans hstart
      simp [hnone] at he

/-! ## Calls of an operation -/

/-- An operation without a phase ends with its error before anything is done. -/
theorem operate_of_error (run : Runner ρ) (clock : Clock) {e : BuildError}
    (h : p.phase r cache.content session.files = .error e) :
    ∃ name, p.operate run r clock cache session =
      ⟨session, cache, OperationOutcome.fail { backend := name } e⟩ := by
  obtain ⟨name, hrun⟩ := run_stages_of_error run clock h
  rw [operate_eq, hrun]
  exact ⟨name, rfl⟩

/-- An operation without a phase makes no call. -/
theorem callsOf_of_error (run : Runner ρ) (clock : Clock) {e : BuildError}
    (h : p.phase r cache.content session.files = .error e) :
    p.callsOf run r clock cache session = [] := by
  have hphase : p.phase r cache.content session.observed.files = .error e := h
  obtain ⟨name, ho⟩ := operate_of_error run.observed clock hphase
  rw [callsOf, ho]
  rfl

/-- **The calls of the loop** over the files of an operation. -/
def compileCallsOf (p : Project) (run : Runner ρ) (r : OperationRequest) (clock : Clock)
    (cache : BuildCache) (session : Session ρ) : List Call :=
  match p.phase r cache.content session.files with
  | .error _ => []
  | .ok ph =>
    ((p.compileAll run.observed ph.backend r clock none ph.filtered.toBuild).run
      (ph.start cache session.observed)).2.calls

/-- **The execution of an operation with a phase**: the calls of the loop are entered in the ledger,
at most one call is made behind them, as `LastRun` says, and without a call the cache is the one
with which the operation began. -/
theorem exists_execution (run : Runner ρ) (clock : Clock) {ph : Phase}
    (h : p.phase r cache.content session.files = .ok ph) :
    ∃ c x last answer q,
      (p.executeFor run.observed ph.backend r clock ph.target ph.plan ph.filtered).run
        (ph.start cache session.observed) = (answer, q) ∧
      q.calls = p.compileCallsOf run r clock cache session ++ last ∧
      p.Compiling ph.backend r none session.cancelled ph.filtered.toBuild
        (p.compileCallsOf run r clock cache session) c x ∧
      p.LastRun ph.backend r ph.plan ph.target x c last q.session.cancelled answer ∧
      q.ledger = (ph.filtered.toBuild.zip (p.compileCallsOf run r clock cache session)).foldl
        (Ledger.enter ph.backend clock.now) ⟨cache.content, [], []⟩ ∧
      (q.calls = [] → q.cache = cache) := by
  obtain ⟨calls, x, q', hloop, hcalls, hcompiling, hledger, hquiet⟩ := exists_compiling p run
    ph.backend r clock none ph.filtered.toBuild (ph.start cache session.observed)
  obtain ⟨last, answer, q'', hexecute, hmore, hlast, hquiet'⟩ := exists_lastRun p run ph.backend r
    clock ph.target ph.plan ph.filtered hloop
  have hcompile : p.compileCallsOf run r clock cache session = calls := by
    rw [compileCallsOf, h]
    simp only [hloop, hcalls]
    rfl
  have hall : q''.calls = calls ++ last := by
    rw [hmore, hcalls]
    rfl
  rw [hcompile]
  refine ⟨_, x, last, answer, q'', hexecute, hall, hcompiling, hlast, ?_, fun hnone => ?_⟩
  · -- what comes behind the loop enters nothing
    have hview := view_executeFor Progress.ledger (fun _ _ => rfl) p run.observed
      ph.backend r clock ph.target ph.plan ph.filtered (ph.start cache session.observed)
    rw [hexecute, hloop] at hview
    exact hview.trans hledger
  · -- without a call neither the loop nor what comes behind it has changed anything
    rw [hall, List.append_eq_nil_iff] at hnone
    rw [hquiet' hnone.2, hquiet hnone.1]
    rfl

section

variable {ph : Phase} {q : Progress (ρ × List Call)}

/-- **An execution leaves its operation executing**, however it ends: it adds files compiled and
messages only. -/
theorem isExecuting_of_executeFor {answer : Except BuildError Execution}
    (hexecute : (p.executeFor run.observed ph.backend r clock ph.target ph.plan ph.filtered).run
      (ph.start cache session.observed) = (answer, q)) : q.outcome.IsExecuting := by
  have hkeeps := keeps_outcome_executeFor p run.observed ph.backend r clock ph.target ph.plan
    ph.filtered (ph.start cache session.observed)
  rw [hexecute] at hkeeps
  exact
    { state := congrArg OperationOutcome.state hkeeps
      transitions := congrArg OperationOutcome.transitions hkeeps
      failedIn := congrArg OperationOutcome.failedIn hkeeps
      error := congrArg OperationOutcome.error hkeeps
      toolResult := congrArg OperationOutcome.toolResult hkeeps
      archive := congrArg OperationOutcome.archive hkeeps
      archiveError := congrArg OperationOutcome.archiveError hkeeps }

/-- An execution that ends in an error ends the operation. -/
theorem operate_of_execution_error (run : Runner ρ) (clock : Clock)
    (h : p.phase r cache.content session.files = .ok ph) {e : BuildError}
    (hexecute : (p.executeFor run.observed ph.backend r clock ph.target ph.plan ph.filtered).run
      (ph.start cache session.observed) = (.error e, q)) :
    p.operate run r clock cache session =
      Progress.plain { q with outcome := q.outcome.fail e } := by
  have hphase : p.phase r cache.content session.observed.files = .ok ph := h
  rw [← operate_observed, operate_eq, run_stages run.observed clock hphase, run_bind, hexecute]

/-- **Behind an execution without an error** an operation ends as what comes behind it does. -/
theorem operate_of_execution_ok (run : Runner ρ) (clock : Clock)
    (h : p.phase r cache.content session.files = .ok ph) {e : Execution}
    (hexecute : (p.executeFor run.observed ph.backend r clock ph.target ph.plan ph.filtered).run
      (ph.start cache session.observed) = (.ok e, q)) :
    p.operate run r clock cache session = Progress.plain
      (match (p.finishFor ph.backend r clock e).run q with
        | (.ok _, q') => q'
        | (.error err, q') => { q' with outcome := q'.outcome.fail err }) := by
  have hphase : p.phase r cache.content session.observed.files = .ok ph := h
  rw [← operate_observed, operate_eq, run_stages run.observed clock hphase, run_bind, hexecute]
  dsimp only
  rcases (p.finishFor ph.backend r clock e).run q with ⟨err | u, q'⟩ <;> rfl

end

/-- Behind the execution of an operation neither the calls nor the cache change. -/
theorem calls_operate_of_execution (run : Runner ρ) (clock : Clock) {ph : Phase}
    (h : p.phase r cache.content session.files = .ok ph) {answer : Except BuildError Execution}
    {q : Progress (ρ × List Call)}
    (hexecute : (p.executeFor run.observed ph.backend r clock ph.target ph.plan ph.filtered).run
      (ph.start cache session.observed) = (answer, q)) :
    p.callsOf run r clock cache session = q.calls ∧
      (p.operate run r clock cache session).cache = q.cache ∧
      (p.operate run r clock cache session).outcome.compiled = q.outcome.compiled := by
  have hphase : p.phase r cache.content session.observed.files = .ok ph := h
  have hsettled := settled_stages run.observed clock hphase
  rw [hexecute] at hsettled
  rw [← operate_observed p run r clock cache session, callsOf, operate_eq]
  refine ⟨congrArg (·.2.2.2.2.2.2) hsettled, congrArg (·.1) hsettled, ?_⟩
  have hcompiled := congrArg (·.2.1) hsettled
  rcases hstages : (p.stages run.observed r clock).run ⟨session.observed, cache, {}⟩ with
    ⟨e | u, q'⟩ <;> rw [hstages] at hcompiled <;> exact hcompiled

/-- **The calls of an operation with a phase** are those of the loop and what `LastRun` says; when
none is made, the cache is the one with which the operation began. -/
theorem exists_lastRun_callsOf (run : Runner ρ) (clock : Clock) {ph : Phase}
    (h : p.phase r cache.content session.files = .ok ph) :
    ∃ c x last c' answer,
      p.callsOf run r clock cache session = p.compileCallsOf run r clock cache session ++ last ∧
      p.Compiling ph.backend r none session.cancelled ph.filtered.toBuild
        (p.compileCallsOf run r clock cache session) c x ∧
      p.LastRun ph.backend r ph.plan ph.target x c last c' answer ∧
      (p.callsOf run r clock cache session = [] →
        (p.operate run r clock cache session).cache = cache) ∧
      ∀ e, (p.operate run r clock cache session).outcome.error = some e →
        answer = .error e ∨ e = .tool (.cancelled ph.backend.executable) ∨
          ∃ o subject, e = .toolFailed o subject := by
  have hphase : p.phase r cache.content session.observed.files = .ok ph := h
  obtain ⟨c, x, last, answer, q, hexecute, hcalls, hcompiling, hlast, -, hquiet⟩ :=
    exists_execution run clock h
  obtain ⟨hall, hcache, -⟩ := calls_operate_of_execution run clock h hexecute
  refine ⟨c, x, last, _, answer, hall.trans hcalls, hcompiling, hlast, fun hnone => ?_,
    fun e he => ?_⟩
  · rw [hcache, hquiet (hall ▸ hnone)]
  · rw [← operate_observed] at he
    have herror := error_operate run.observed clock hphase he
    rwa [hexecute] at herror

end Project

end RtlFlow
