import RtlFlow.Proofs.Build.Outcomes
import RtlFlow.Proofs.Build.StructuralErrors

/-! # The output that an operation shows

An operation shows the output of the run that decides: that of the run of the target, or else the
output of all compiles, one behind the other (`Compiling.gathers`). The output of the compiles is
handed on only when the loop over the files has come to its end or a compile has not passed. When a
call is not made or does not start, nothing is shown, also of the calls that have returned
(`Project.captured_output`, `Project.not_forall_captured_output`). -/

namespace RtlFlow

open OperationStep

namespace Call

/-- What a call has written to standard output. -/
def stdout (x : Call) : String :=
  match x.reply with
  | .ok result => result.stdout
  | .error _ => ""

/-- What a call has written to standard error. -/
def stderr (x : Call) : String :=
  match x.reply with
  | .ok result => result.stderr
  | .error _ => ""

end Call

/-- **A result that gathers the output of calls**: both streams hold what the calls have written, in
order, and it has ended as the last of them. -/
structure Gathers (calls : List Call) (shown : ToolResult) : Prop where
  /-- Standard output. -/
  stdout : shown.stdout = String.join (calls.map Call.stdout)
  /-- Standard error. -/
  stderr : shown.stderr = String.join (calls.map Call.stderr)
  /-- The ending. -/
  status : ∃ x ∈ calls.getLast?, ∃ result, x.reply = .ok result ∧ shown.status = result.status

/-- **A log that gathers the output of calls**; there is none without a call. -/
def GathersLog (calls : List Call) : Option ToolRun → Prop
  | none => calls = []
  | some log => Gathers calls log.result

/-- **A run put behind a log** gathers one more call. -/
theorem GathersLog.after {calls : List Call} {log : Option ToolRun} (h : GathersLog calls log)
    {x : Call} {result : ToolResult} (hreply : x.reply = .ok result) (artifacts : List Path) :
    Gathers (calls ++ [x]) (ToolRun.after log ⟨result, artifacts⟩).result := by
  have hout : x.stdout = result.stdout := by simp [Call.stdout, hreply]
  have herr : x.stderr = result.stderr := by simp [Call.stderr, hreply]
  cases log with
  | none =>
    obtain rfl : calls = [] := h
    exact ⟨by simp [ToolRun.after, hout], by simp [ToolRun.after, herr], x, by simp, result, hreply,
      rfl⟩
  | some log =>
    have h : Gathers calls log.result := h
    refine ⟨?_, ?_, x, by simp, result, hreply, rfl⟩
    · simp [ToolRun.after, String.join_append, h.stdout, hout]
    · simp [ToolRun.after, String.join_append, h.stderr, herr]

namespace Project

variable {ρ : Type} {p : Project} {run : Runner ρ} {b : Backend} {r : OperationRequest}
  {clock : Clock} {cache : BuildCache} {session : Session ρ} {ph : Phase}

/-! ## The loop -/

/-- **What the loop hands on** gathers the output of calls, unless it is an error. -/
def HandsOn (calls : List Call) : Except BuildError (Execution ⊕ Option ToolRun) → Prop
  | .error _ => True
  | .ok (.inl e) => ∃ one, e.run = some one ∧ Gathers calls one.result
  | .ok (.inr log) => GathersLog calls log

/-- **The loop gathers the output of its calls**, up to its end or to the compile that has not
passed. -/
theorem Compiling.handsOn {log : Option ToolRun} {cancelled c : Bool} {files : List PlannedFile}
    {calls before : List Call} {answer : Except BuildError (Execution ⊕ Option ToolRun)}
    (h : p.Compiling b r log cancelled files calls c answer) (hlog : GathersLog before log) :
    HandsOn (before ++ calls) answer := by
  induction h generalizing before with
  | done =>
    rw [List.append_nil]
    exact hlog
  | cancelled => trivial
  | refused => trivial
  | notStarted => trivial
  | stopped log files h c hpasses => exact ⟨_, rfl, hlog.after rfl _⟩
  | @passed log f files i h result c c' hpasses calls answer hrest ih =>
    -- the rest of the loop starts with the log that has this call at its end
    have hmore := hlog.after (x := ⟨i, false, .ok result, c⟩) rfl i.artifacts
    rw [← List.singleton_append, ← List.append_assoc]
    exact ih hmore

/-! ## Behind the execution -/

/-- What deciding on an execution shows is the output of its run, if it has one. -/
theorem toolResult_classifyFor (b : Backend) (e : Execution) (q : Progress ρ) :
    ((classifyFor b e).run q).2.outcome.toolResult =
      (e.run.map (·.result)).or q.outcome.toolResult := by
  unfold classifyFor enter
  rw [run_bind_of_ok (run_onOutcome _ _), run_bind_of_ok (run_onOutcome _ _)]
  cases hrun : e.run with
  | none => rfl
  | some one =>
    dsimp only
    rw [run_bind_of_ok (run_judge hrun _), run_bind, run_conclude]
    cases one.result.wasCancelled <;> rfl

/-- Archiving leaves alone what is shown. -/
theorem keeps_toolResult_archiveFor (p : Project) (r : OperationRequest) (clock : Clock)
    (succeeded : Bool) (e : Execution) :
    Keeps (·.outcome.toolResult) (p.archiveFor r clock succeeded e : OperationStep ρ Unit) := by
  unfold archiveFor enter
  refine .bind (.onOutcome fun _ => rfl) fun _ => ?_
  cases e.run with
  | none => exact .pure _
  | some one =>
    refine .modify fun q => ?_
    rcases Archive.write p.options.archiveDir r.kind p.options.projectId succeeded one.artifacts
      (some one.result) clock.stamp q.session.files with ⟨bundle | error, files⟩ <;> rfl

/-- **An operation shows the output of the run of its execution.** -/
theorem toolResult_finishFor (p : Project) (b : Backend) (r : OperationRequest) (clock : Clock)
    (e : Execution) (q : Progress ρ) :
    ((p.finishFor b r clock e).run q).2.outcome.toolResult =
      (e.run.map (·.result)).or q.outcome.toolResult := by
  have hbehind : ∀ succeeded, Keeps (·.outcome.toolResult) (do
      p.archiveFor r clock succeeded e
      if succeeded then onOutcome .succeed
      else throw (.toolFailed e.operation.keyword e.subject) : OperationStep ρ Unit) := by
    intro succeeded
    refine .bind (keeps_toolResult_archiveFor p r clock succeeded e) fun _ => ?_
    split
    · exact .onOutcome fun _ => rfl
    · exact .throw _
  rw [← toolResult_classifyFor b e q]
  exact view_run_bind hbehind q

section

variable {q : Progress (ρ × List Call)}

/-- **An execution that ends in an error ends the operation**, which then shows nothing. -/
theorem outcome_operate_of_error (run : Runner ρ) (clock : Clock)
    (h : p.phase r cache.content session.files = .ok ph) {e : BuildError}
    (hexecute : (p.executeFor run.observed ph.backend r clock ph.target ph.plan ph.filtered).run
      (ph.start cache session.observed) = (.error e, q)) :
    (p.operate run r clock cache session).outcome.error = some e ∧
      (p.operate run r clock cache session).outcome.toolResult = none := by
  have hnone := (isExecuting_of_executeFor hexecute).toolResult
  rw [operate_of_execution_error run clock h hexecute]
  exact ⟨rfl, hnone⟩

/-- **Behind an execution without an error** an operation shows the output of its run. -/
theorem toolResult_operate_of_ok (run : Runner ρ) (clock : Clock)
    (h : p.phase r cache.content session.files = .ok ph) {e : Execution}
    (hexecute : (p.executeFor run.observed ph.backend r clock ph.target ph.plan ph.filtered).run
      (ph.start cache session.observed) = (.ok e, q)) :
    (p.operate run r clock cache session).outcome.toolResult = e.run.map (·.result) := by
  have hnone := (isExecuting_of_executeFor hexecute).toolResult
  have hfinish := toolResult_finishFor p ph.backend r clock e q
  rw [hnone, Option.or_none] at hfinish
  rw [operate_of_execution_ok run clock h hexecute, ← hfinish]
  rcases (p.finishFor ph.backend r clock e).run q with ⟨err | u, q'⟩ <;> rfl

end

/-! ## What is shown of all calls -/

/-- **Why an operation is interrupted** when it has made some calls: cancellation was asked for, a
call did not start, generics are not taken, or the backend itself answers with an error. -/
def Interrupts (b : Backend) (calls : List Call) (e : ToolError) : Prop :=
  e = .cancelled b.executable ∨ (∃ x ∈ calls, x.reply = .error e) ∨
    (∃ g, b.checkGenerics g = .error e) ∨ b.Answers e

/-- **What the outcome of an operation shows of its calls**: those of the loop over its files, and
what comes behind them. -/
inductive Captured (p : Project) (r : OperationRequest) (o : OperationOutcome) :
    List Call → List Call → Prop
  /-- There was no call, and nothing is shown. -/
  | nothing (hshown : o.toolResult = none) : Captured p r o [] []
  /-- The run of the target has returned, and its output is shown. -/
  | target (compiles : List Call) {x : Call} {result : ToolResult} (hreply : x.reply = .ok result)
      (hshown : o.toolResult = some result) : Captured p r o compiles [x]
  /-- Nothing comes behind the compiles, and the output of all of them is shown. -/
  | compiles {compiles : List Call} {shown : ToolResult} (hgathers : Gathers compiles shown)
      (hshown : o.toolResult = some shown) : Captured p r o compiles []
  /-- The operation was interrupted, and nothing is shown. The compiles that have returned have all
  passed, and the run of the target has not returned. -/
  | lost {compiles last : List Call} {b : Backend} {e : ToolError}
      (hselect : p.selectBackend r = .ok b) (herror : o.error = some (.tool e))
      (hcause : Interrupts b (compiles ++ last) e)
      (hcompiles : ∀ x ∈ compiles, x.passes b = true ∨ x.reply = .error e)
      (hlast : ∀ x ∈ last, x.reply = .error e) (hshown : o.toolResult = none) :
      Captured p r o compiles last

/-- In a loop that ends in an error all calls have passed but the one that did not start. -/
theorem Compiling.passes_or_error {log : Option ToolRun} {cancelled c : Bool}
    {files : List PlannedFile} {calls : List Call}
    {answer : Except BuildError (Execution ⊕ Option ToolRun)}
    (h : p.Compiling b r log cancelled files calls c answer) {e : ToolError}
    (he : answer = .error (.tool e)) : ∀ x ∈ calls, x.passes b = true ∨ x.reply = .error e := by
  induction h with
  | done => simp at he
  | cancelled => simp
  | refused => simp
  | notStarted log files h e' c =>
    obtain rfl : e' = e := by simpa using he
    simp
  | stopped => simp at he
  | passed log h hpasses hrest ih =>
    intro x hx
    rcases List.mem_cons.mp hx with rfl | hx
    · exact Or.inl hpasses
    · exact ih he x hx

section

variable {cancelled c c' : Bool} {calls last : List Call}
  {x : Except BuildError (Execution ⊕ Option ToolRun)}

/-- The loop of an operation ends in an error when the operation is interrupted. -/
theorem Compiling.interrupts {content : CacheContent} {t : FileTree}
    (hphase : p.phase r content t = .ok ph)
    (h : p.Compiling ph.backend r none cancelled ph.filtered.toBuild calls c x) {err : BuildError}
    (hx : x = .error err) : ∃ e, err = .tool e ∧ Interrupts ph.backend calls e := by
  rcases h.error_cases hx with rfl | ⟨e, rfl, hreply | ⟨f, hf, hcall, -⟩⟩
  · exact ⟨_, rfl, Or.inl rfl⟩
  · exact ⟨e, rfl, Or.inr (Or.inl hreply)⟩
  · rcases error_compileCall hphase (List.mem_of_getElem? hf) hcall with hgenerics | hown
    · exact ⟨e, rfl, Or.inr (Or.inr (Or.inl ⟨_, hgenerics⟩))⟩
    · exact ⟨e, rfl, Or.inr (Or.inr (Or.inr hown))⟩

/-- **An execution ends in an error** when the operation is interrupted, and no call behind the
compiles has returned. -/
theorem LastRun.interrupts {content : CacheContent} {t : FileTree}
    (hphase : p.phase r content t = .ok ph)
    (hloop : p.Compiling ph.backend r none cancelled ph.filtered.toBuild calls c x)
    {err : BuildError} (h : p.LastRun ph.backend r ph.plan ph.target x c last c' (.error err)) :
    ∃ e, err = .tool e ∧ Interrupts ph.backend (calls ++ last) e ∧
      (∀ y ∈ calls, y.passes ph.backend = true ∨ y.reply = .error e) ∧
      ∀ y ∈ last, y.reply = .error e := by
  cases h with
  | failed err c =>
    obtain ⟨e, rfl, hcause⟩ := hloop.interrupts hphase rfl
    exact ⟨e, rfl, by rwa [List.append_nil], hloop.passes_or_error rfl, by simp⟩
  | cancelled log =>
    exact ⟨_, rfl, Or.inl rfl, fun y hy => Or.inl ((hloop.all_passed rfl).2 y hy), by simp⟩
  | refused log h =>
    exact ⟨_, rfl, Or.inr (Or.inr (Or.inr (error_lastCall hphase h))),
      fun y hy => Or.inl ((hloop.all_passed rfl).2 y hy), by simp⟩
  | notStarted log h e c =>
    exact ⟨e, rfl,
      Or.inr (Or.inl ⟨_, List.mem_append_right _ (List.mem_singleton_self _), rfl⟩),
      fun y hy => Or.inl ((hloop.all_passed rfl).2 y hy), by simp⟩

/-- **An execution without an error** gives the output of its calls. -/
theorem LastRun.captured {o : OperationOutcome} {plan : BuildPlan} {target : Option Target}
    {files : List PlannedFile} (hloop : p.Compiling b r none cancelled files calls c x)
    {e : Execution} (h : p.LastRun b r plan target x c last c' (.ok e))
    (hshown : o.toolResult = e.run.map (·.result)) : p.Captured r o calls last := by
  have hgathers : HandsOn ([] ++ calls) x := hloop.handsOn rfl
  rw [List.nil_append] at hgathers
  cases h with
  | stopped e c =>
    obtain ⟨one, hrun, hgathers⟩ := hgathers
    exact .compiles hgathers (by rw [hshown, hrun]; rfl)
  | compiled log h =>
    cases log with
    | none =>
      obtain rfl : calls = [] := hgathers
      exact .nothing hshown
    | some log => exact .compiles hgathers hshown
  | ran log h result c subject => exact .target calls rfl hshown

end

/-- **Every operation shows the output of its calls, unless it is interrupted.** When the run of the
target returns, its output is shown, and otherwise the output of all compiles in order. An operation
that is interrupted shows nothing, also when compiles have returned before. -/
theorem captured_output (p : Project) (run : Runner ρ) (r : OperationRequest) (clock : Clock)
    (cache : BuildCache) (session : Session ρ) :
    ∃ last, p.callsOf run r clock cache session =
        p.compileCallsOf run r clock cache session ++ last ∧
      p.Captured r (p.operate run r clock cache session).outcome
        (p.compileCallsOf run r clock cache session) last := by
  cases hphase : p.phase r cache.content session.files with
  | error e =>
    have hnone : p.compileCallsOf run r clock cache session = [] := by rw [compileCallsOf, hphase]
    obtain ⟨name, ho⟩ := operate_of_error run clock hphase
    refine ⟨[], by rw [callsOf_of_error run clock hphase, hnone]; rfl, ?_⟩
    rw [hnone, ho]
    exact .nothing rfl
  | ok ph =>
    obtain ⟨c, x, last, answer, q, hexecute, hcalls, hloop, hlast, -, -⟩ :=
      exists_execution run clock hphase
    obtain ⟨hall, -, -⟩ := calls_operate_of_execution run clock hphase hexecute
    refine ⟨last, hall.trans hcalls, ?_⟩
    cases answer with
    | error err =>
      -- the log of the loop is not part of the error, so nothing of it is shown
      obtain ⟨herror, hshown⟩ := outcome_operate_of_error run clock hphase hexecute
      obtain ⟨e, rfl, hcause, hcompiles, hreplies⟩ := hlast.interrupts hphase hloop
      exact .lost (phase_eq_ok hphase).1 herror hcause hcompiles hreplies hshown
    | ok e =>
      exact hlast.captured hloop (toolResult_operate_of_ok run clock hphase hexecute)

/-! ## Operations that are interrupted -/

/-- **Operations that fail with an error show the output of their calls**, if any has returned. -/
def AlwaysCaptured (e : ToolError) : Prop :=
  ∀ (ρ : Type) (p : Project) (run : Runner ρ) (r : OperationRequest) (clock : Clock)
    (cache : BuildCache) (session : Session ρ), p.catalog.Registered →
      (∃ x ∈ p.callsOf run r clock cache session, ∃ result, x.reply = .ok result) →
        (p.operate run r clock cache session).outcome.succeeded = false →
          (p.operate run r clock cache session).outcome.error = some (.tool e) →
            ∃ shown, (p.operate run r clock cache session).outcome.toolResult = some shown

/-- A runner whose runs write a line, and ask for cancellation as its state says; behind these it
does not start. -/
def talkingRunner : Runner (List Bool) := fun _ s =>
  match s.runner with
  | [] => (.error (.invocation "sim" "not found"), s)
  | cancels :: rest =>
    (.ok ⟨.exited 0, "done\n", "", ⟨0, 0⟩⟩, { s with cancelled := cancels, runner := rest })

/-- A compile of the two files where the first call asks for cancellation, or the second one does
not start. -/
def runTalking (cancels : Bool) : Progress (List Bool) :=
  pair.operate talkingRunner ⟨.compile, none, none, {}⟩ ⟨⟨"now"⟩, "now"⟩ .inMemory
    ⟨pairFiles, false, [cancels]⟩

/-- **The output of a compile is lost** when the next compile does not start, and when cancellation
is asked for before it. -/
theorem not_forall_captured_output :
    ¬ AlwaysCaptured (.invocation "sim" "not found") ∧ ¬ AlwaysCaptured (.cancelled "sim") := by
  have hlost : ∀ (cancels : Bool) (e : ToolError),
      (runTalking cancels).outcome.error = some (.tool e) → ¬ AlwaysCaptured e := by
    intro cancels e herror h
    have hcalls : ((pair.callsOf talkingRunner ⟨.compile, none, none, {}⟩ ⟨⟨"now"⟩, "now"⟩ .inMemory
        ⟨pairFiles, false, [cancels]⟩).any fun x => x.reply.isOk) = true := by
      cases cancels <;> decide +kernel
    have hfailed : (runTalking cancels).outcome.succeeded = false := by
      cases cancels <;> decide +kernel
    have hnone : (runTalking cancels).outcome.toolResult = none := by
      cases cancels <;> decide +kernel
    obtain ⟨x, hx, hok⟩ := List.any_eq_true.mp hcalls
    have hreply : ∃ result, x.reply = .ok result := by
      cases hreply : x.reply with
      | error e => simp [hreply, Except.isOk, Except.toBool] at hok
      | ok result => exact ⟨result, rfl⟩
    obtain ⟨shown, hshown⟩ := h _ pair talkingRunner _ _ _ _ registered_pair ⟨x, hx, hreply⟩
      hfailed herror
    exact absurd (hnone.symm.trans hshown) (by simp)
  exact ⟨hlost false _ (by decide +kernel), hlost true _ (by decide +kernel)⟩

end Project

end RtlFlow
