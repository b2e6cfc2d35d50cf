import RtlFlow.Proofs.Build.Outcomes
import RtlFlow.Proofs.Build.StructuralErrors

/-! # What decides on an operation

The output of the tools decides on an operation, and it does so in two places: for each compile when
it is over, and for the run behind the compiles at the end. An operation that succeeds has no
message of an error, and all its calls were classified as successes; one that ends in the error of a
tool has the messages of the call that has failed, with an error among them. A bundle is told the
same as the outcome (`Project.decided_operate`). -/

namespace RtlFlow

open OperationStep

/-! ## Classifications -/

/-- **A run is a success when none of its messages is that of a failure.** -/
theorem Verdict.isSuccess_ofMessages (messages : List Message) :
    (ofMessages messages).isSuccess = true ↔ ∀ m ∈ messages, m.severity.isFailure = false := by
  unfold ofMessages isSuccess
  split_ifs with hfailed hwarned
  · simpa using hfailed
  · simpa using hfailed
  · simpa using hfailed

/-- A classified run is a success when none of its messages is that of a failure. -/
theorem Classifier.isSuccess_classify (c : Classifier) (r : ToolResult) :
    (c.classify r).verdict.isSuccess = true ↔
      ∀ m ∈ (c.classify r).messages, m.severity.isFailure = false :=
  Verdict.isSuccess_ofMessages _

namespace Call

variable {b : Backend} {x : Call}

/-- A compile that has passed is classified as a success, and its output is taken down. -/
theorem exists_reply_of_passes (h : x.passes b = true) :
    ∃ result, x.reply = .ok result ∧ (b.classifier.classify result).verdict.isSuccess = true ∧
      x.said b = (b.classifier.classify result).messages := by
  unfold passes Project.passes at h
  unfold said
  cases hreply : x.reply with
  | error e => simp [hreply] at h
  | ok result =>
    rw [hreply] at h
    obtain ⟨hcancelled, hsuccess⟩ := Bool.and_eq_true_iff.mp h
    exact ⟨result, rfl, hsuccess, if_neg (by simpa using hcancelled)⟩

end Call

namespace Project

variable {ρ : Type} {p : Project} {run : Runner ρ} {b : Backend} {r : OperationRequest}
  {clock : Clock} {cache : BuildCache} {session : Session ρ}

/-! ## The execution that decides -/

/-- **A compile that stops the loop is the last call**, and the execution is what it has given. -/
theorem Compiling.exists_of_inl {log : Option ToolRun} {cancelled c : Bool}
    {files : List PlannedFile} {calls : List Call}
    {answer : Except BuildError (Execution ⊕ Option ToolRun)}
    (h : p.Compiling b r log cancelled files calls c answer) {e : Execution}
    (hanswer : answer = .ok (.inl e)) :
    e.compileFailed = true ∧ ∃ calls' x result, calls = calls' ++ [x] ∧ x.reply = .ok result ∧
      x.passes b = false ∧ e.wasCancelled = result.wasCancelled := by
  induction h with
  | done => simp at hanswer
  | cancelled => simp at hanswer
  | refused => simp at hanswer
  | notStarted => simp at hanswer
  | @stopped log f files i h result c hpasses =>
    obtain rfl := Sum.inl.inj (Except.ok.inj hanswer)
    refine ⟨rfl, [], _, result, rfl, rfl, hpasses, ?_⟩
    cases log <;> rfl
  | passed log h hpasses hrest ih =>
    obtain ⟨hfailed, calls', x, result, rfl, hx⟩ := ih hanswer
    exact ⟨hfailed, _ :: calls', x, result, rfl, hx⟩

/-- **What an execution has given**, by the calls that were made: all compiles have passed and
nothing comes behind them, the last compile has not passed, or the target was run. -/
theorem LastRun.execution_cases {plan : BuildPlan} {target : Option Target} {cancelled c c' : Bool}
    {files : List PlannedFile} {calls last : List Call}
    {x : Except BuildError (Execution ⊕ Option ToolRun)} {e : Execution}
    (hloop : p.Compiling b r none cancelled files calls c x)
    (h : p.LastRun b r plan target x c last c' (.ok e)) :
    (e.compileFailed = false ∧ e.operation = .compile ∧ last = [] ∧
        ∀ y ∈ calls, y.passes b = true) ∨
      (e.compileFailed = true ∧ last = [] ∧ ∃ calls' y result, calls = calls' ++ [y] ∧
        y.reply = .ok result ∧ y.passes b = false ∧ e.wasCancelled = result.wasCancelled) ∨
      (e.compileFailed = false ∧ e.operation ≠ .compile ∧ (∀ y ∈ calls, y.passes b = true) ∧
        ∃ y one, last = [y] ∧ y.reply = .ok one.result ∧ e.run = some one) := by
  cases h with
  | stopped e c =>
    obtain ⟨hfailed, hlast⟩ := hloop.exists_of_inl rfl
    exact Or.inr (Or.inl ⟨hfailed, rfl, hlast⟩)
  | compiled log h => exact Or.inl ⟨rfl, rfl, rfl, (hloop.all_passed rfl).2⟩
  | ran log h result c subject =>
    refine Or.inr (Or.inr ⟨rfl, fun ho => ?_, (hloop.all_passed rfl).2, _, _, rfl, rfl, rfl⟩)
    have hkind : r.kind = .compile := ho
    cases target <;> simp [lastCall, hkind] at h

section

variable {plan : BuildPlan} {target : Option Target} {cancelled c c' : Bool}
  {files : List PlannedFile} {calls last : List Call}
  {x : Except BuildError (Execution ⊕ Option ToolRun)} {e : Execution}

/-- **Behind an execution that is a success** no message is that of a failure, and each call is
classified as a success. -/
theorem LastRun.of_succeeds (hloop : p.Compiling b r none cancelled files calls c x)
    (h : p.LastRun b r plan target x c last c' (.ok e)) (hsucceeds : e.succeeds b = true) :
    (∀ m ∈ (calls.flatMap fun y => y.said b) ++ e.said b, m.severity.isFailure = false) ∧
      ∀ y ∈ calls ++ last, ∃ result, y.reply = .ok result ∧
        (b.classifier.classify result).verdict.isSuccess = true := by
  have hsilent (hall : ∀ y ∈ calls, y.passes b = true) :
      ∀ m ∈ calls.flatMap fun y => y.said b, m.severity.isFailure = false := by
    intro m hm
    obtain ⟨y, hy, hm⟩ := List.mem_flatMap.mp hm
    obtain ⟨result, -, hsuccess, hsaid⟩ := Call.exists_reply_of_passes (hall y hy)
    exact (Classifier.isSuccess_classify _ _).mp hsuccess m (hsaid ▸ hm)
  have hreplies (hall : ∀ y ∈ calls, y.passes b = true) : ∀ y ∈ calls, ∃ result,
      y.reply = .ok result ∧ (b.classifier.classify result).verdict.isSuccess = true := by
    intro y hy
    obtain ⟨result, hreply, hsuccess, -⟩ := Call.exists_reply_of_passes (hall y hy)
    exact ⟨result, hreply, hsuccess⟩
  rcases h.execution_cases hloop with ⟨hfailed, ho, rfl, hall⟩ | ⟨hfailed, -⟩ |
    ⟨hfailed, ho, hall, y, one, rfl, hreply, hrun⟩
  · have hsaid : e.said b = [] := by simp [Execution.said, ho]
    rw [hsaid, List.append_nil, List.append_nil]
    exact ⟨hsilent hall, hreplies hall⟩
  · simp [Execution.succeeds, hfailed] at hsucceeds
  · have hsuccess : (b.classifier.classify one.result).verdict.isSuccess = true := by
      simpa [Execution.succeeds, hfailed, ho, hrun] using hsucceeds
    have hsaid : e.said b = (b.classifier.classify one.result).messages := by
      simp [Execution.said, hfailed, ho, hrun]
    refine ⟨fun m hm => ?_, fun z hz => ?_⟩
    · rcases List.mem_append.mp hm with hm | hm
      · exact hsilent hall m hm
      · exact (Classifier.isSuccess_classify _ _).mp hsuccess m (hsaid ▸ hm)
    · rcases List.mem_append.mp hz with hz | hz
      · exact hreplies hall z hz
      · obtain rfl := List.mem_singleton.mp hz
        exact ⟨one.result, hreply, hsuccess⟩

/-- **Behind an execution that is no success** and was not cancelled, the last call is classified
as a failure, and its output ends the messages. -/
theorem LastRun.of_not_succeeds (hloop : p.Compiling b r none cancelled files calls c x)
    (h : p.LastRun b r plan target x c last c' (.ok e)) (hsucceeds : e.succeeds b = false)
    (hended : e.wasCancelled = false) :
    ∃ y result, (calls ++ last).getLast? = some y ∧ y.reply = .ok result ∧
      (b.classifier.classify result).verdict.isSuccess = false ∧
      (b.classifier.classify result).messages <:+
        (calls.flatMap fun y => y.said b) ++ e.said b := by
  rcases h.execution_cases hloop with ⟨hfailed, ho, rfl, hall⟩ |
    ⟨hfailed, rfl, calls', y, result, rfl, hreply, hpasses, hcancelled⟩ |
    ⟨hfailed, ho, hall, y, one, rfl, hreply, hrun⟩
  · simp [Execution.succeeds, hfailed, ho] at hsucceeds
  · rw [hended] at hcancelled
    have hsaid : e.said b = [] := by simp [Execution.said, hfailed]
    refine ⟨y, result, by simp, hreply, ?_, ?_⟩
    · simpa [Call.passes, Project.passes, hreply, ← hcancelled] using hpasses
    · have hy : y.said b = (b.classifier.classify result).messages := by
        simp [Call.said, hreply, ← hcancelled]
      rw [hsaid, List.append_nil, List.flatMap_append, List.flatMap_singleton, hy]
      exact List.suffix_append _ _
  · refine ⟨y, one.result, by simp, hreply, ?_, ?_⟩
    · simpa [Execution.succeeds, hfailed, ho, hrun] using hsucceeds
    · have hsaid : e.said b = (b.classifier.classify one.result).messages := by
        simp [Execution.said, hfailed, ho, hrun]
      rw [hsaid]
      exact List.suffix_append _ _

end

/-! ## Behind the execution -/

/-- **What an operation has come to behind its execution**: the output of the run that decides is
added to the messages, and a bundle was written by an archiver that was told whether the execution
is a success. -/
structure Closed (a : Archiver) (b : Backend) (e : Execution) (q q' : Progress ρ) : Prop where
  /-- The messages. -/
  messages : q'.outcome.messages = q.outcome.messages ++ e.said b
  /-- There is no other error than before. -/
  error : q'.outcome.error = q.outcome.error
  /-- The bundle, and the files behind it. -/
  bundle : ∀ bundle, q'.outcome.archive = some bundle →
    ∃ one t, (a (e.succeeds b) one).run t = (.ok bundle, q'.session.files)

/-- Archiving is told what it is called with. -/
theorem triple_archiveWith_told (a : Archiver) (succeeded : Bool) (e : Execution) (q : Progress ρ)
    (hq : q.outcome.archive = none) :
    Triple (· = q) (archiveWith a succeeded e)
      (fun _ q' => q'.outcome.messages = q.outcome.messages ∧ q'.outcome.error = q.outcome.error ∧
        ∀ bundle, q'.outcome.archive = some bundle →
          ∃ one t, (a succeeded one).run t = (.ok bundle, q'.session.files))
      (fun _ _ => False) := by
  have henter : Triple (· = q) (enter .archiving)
      (fun _ q' => q'.outcome.messages = q.outcome.messages ∧
        q'.outcome.error = q.outcome.error ∧ q'.outcome.archive = none)
      (fun _ _ => False) := by
    refine .onOutcome ?_
    rintro q' rfl
    exact ⟨rfl, rfl, hq⟩
  refine henter.bind fun _ => ?_
  cases e.run with
  | none =>
    exact .pure fun q' hq' => ⟨hq'.1, hq'.2.1, fun bundle hbundle => by
      simp [hq'.2.2] at hbundle⟩
  | some one =>
    refine .modify fun q' hq' => ?_
    dsimp only
    rcases hwrite : a succeeded one q'.session.files with ⟨bundle | error, files⟩
    · exact ⟨hq'.1, hq'.2.1, fun bundle hbundle => by simp [hq'.2.2] at hbundle⟩
    · refine ⟨hq'.1, hq'.2.1, fun bundle hbundle => ⟨one, q'.session.files, ?_⟩⟩
      obtain rfl := Option.some.inj hbundle
      exact hwrite

/-- **An operation ends behind its execution** as a success when the execution is one, and else with
the error of the tool, unless the run was cancelled. -/
theorem triple_finishWith_closed (a : Archiver) (b : Backend) (e : Execution) (q : Progress ρ)
    (hq : q.outcome.archive = none) :
    Triple (· = q) (finishWith a b e)
      (fun _ q' => e.succeeds b = true ∧ q'.outcome.succeeded = true ∧ Closed a b e q q')
      (fun err q' => (err = .tool (.cancelled b.executable) ∧ q'.outcome.archive = none) ∨
        (e.succeeds b = false ∧ e.wasCancelled = false ∧ Closed a b e q q')) := by
  refine .bind ((triple_classifyFor b e q).mono
    (S := fun succeeded q' => succeeded = e.succeeds b ∧ e.wasCancelled = false ∧
      q'.outcome.messages = q.outcome.messages ++ e.said b ∧
      q'.outcome.error = q.outcome.error ∧ q'.outcome.archive = none) ?_ ?_)
    fun succeeded => .of_start fun q' hq' => ?_
  · rintro succeeded q' ⟨heq, hended, hjudged, -, -⟩
    have herror : q'.outcome.error = q.outcome.error := by
      have h := congrArg OperationOutcome.error hjudged.eq
      exact h
    exact ⟨heq, hended, congrArg OperationOutcome.messages hjudged.eq, herror,
      (congrArg OperationOutcome.archive hjudged.eq).trans hq⟩
  · rintro err q' ⟨heq, hjudged⟩
    exact Or.inl ⟨heq, (congrArg OperationOutcome.archive hjudged.eq).trans hq⟩
  · obtain ⟨rfl, hended, hmessages, herror, harchive⟩ := hq'
    refine .bind ((triple_archiveWith_told a _ e q' harchive).mono
      (S := fun _ q'' => Closed a b e q q'') ?_ fun _ _ => False.elim) fun _ => ?_
    · exact fun _ q'' hq'' => ⟨hq''.1.trans hmessages, hq''.2.1.trans herror, hq''.2.2⟩
    · cases hsucceeds : e.succeeds b with
      | true =>
        exact .onOutcome fun q'' hq'' => ⟨rfl, rfl, hq''.messages, hq''.error, hq''.bundle⟩
      | false => exact .throw fun q'' hq'' => Or.inr ⟨rfl, hended, hq''⟩

/-! ## Operations -/

/-- What is wrong before the phase of an operation is not the error of a tool that has failed. -/
theorem ne_toolFailed_of_phase {c : CacheContent} {t : FileTree} {e : BuildError}
    (h : p.phase r c t = .error e) (o subject : String) : e ≠ .toolFailed o subject := by
  rintro rfl
  exact absurd (isStructural_of_phase h) (by simp [BuildError.isStructural])

/-- **Output decides on an operation**, of which the calls and the progress at its end are given. -/
structure Decided (p : Project) (r : OperationRequest) (clock : Clock) (calls : List Call)
    (q : Progress ρ) : Prop where
  /-- In a success no message is that of a failure, and each call has answered and is classified as
  a success. -/
  success : q.outcome.succeeded = true → ∃ b, p.selectBackend r = .ok b ∧
    (∀ m ∈ q.outcome.messages, m.severity.isFailure = false) ∧
    ∀ x ∈ calls, ∃ result, x.reply = .ok result ∧
      (b.classifier.classify result).verdict.isSuccess = true
  /-- When a tool has failed, it was with the last call, whose output ends the messages, and has an
  error in it. -/
  failure : ∀ o subject, q.outcome.error = some (.toolFailed o subject) →
    ∃ b x result, p.selectBackend r = .ok b ∧ calls.getLast? = some x ∧ x.reply = .ok result ∧
      (b.classifier.classify result).verdict.isSuccess = false ∧
      (b.classifier.classify result).messages <:+ q.outcome.messages ∧
      ∃ m ∈ (b.classifier.classify result).messages, m.severity.isFailure = true
  /-- A bundle was written as that of a success when the operation is one, and else as that of a
  failure. -/
  bundle : ∀ bundle, q.outcome.archive = some bundle → ∃ (one : ToolRun) (t : FileTree),
    (Archive.write p.options.archiveDir r.kind p.options.projectId q.outcome.succeeded
      one.artifacts (some one.result) clock.stamp).run t = (.ok bundle, q.session.files)

/-- The messages of the loop are those of its calls. -/
theorem messages_of_ledger {cancelled c : Bool} {files : List PlannedFile} {calls : List Call}
    {answer : Except BuildError (Execution ⊕ Option ToolRun)} {content : CacheContent}
    {now : Timestamp} {q : Progress ρ}
    (hloop : p.Compiling b r none cancelled files calls c answer)
    (h : q.ledger = (files.zip calls).foldl (Ledger.enter b now) ⟨content, [], []⟩) :
    q.outcome.messages = calls.flatMap fun x => x.said b := by
  obtain ⟨passed, last, hzip, hcalls, -⟩ := hloop.exists_zip_eq
  have hmessages := congrArg Ledger.messages h
  rw [Ledger.messages_foldl_enter, List.nil_append, hzip] at hmessages
  rw [← hcalls, List.flatMap_map]
  exact hmessages

/-- Without the calls that were taken down, output decides as before. -/
theorem Decided.plain {calls : List Call} {q : Progress (ρ × List Call)}
    (h : p.Decided r clock calls q) : p.Decided r clock calls q.plain :=
  ⟨h.success, h.failure, h.bundle⟩

section

variable {plan : BuildPlan} {target : Option Target} {cancelled c c' : Bool}
  {files : List PlannedFile} {calls last : List Call}
  {x : Except BuildError (Execution ⊕ Option ToolRun)} {q q' : Progress ρ}

/-- An execution that ends in an error has not come to a success, a tool that has failed or a
bundle: its errors are those of calls that were not made. -/
theorem LastRun.decided_of_error {err : BuildError}
    (hloop : p.Compiling b r none cancelled files calls c x)
    (hlast : p.LastRun b r plan target x c last c' (.error err))
    (harchive : q.outcome.archive = none) :
    p.Decided r clock (calls ++ last) { q with outcome := q.outcome.fail err } where
  success h := by simp [OperationOutcome.fail, OperationOutcome.enter] at h
  failure o subject h := by
    obtain rfl : err = .toolFailed o subject := Option.some.inj h
    rcases hlast.error_cases rfl with ⟨hx, -⟩ | h | ⟨e', h, -⟩
    · rcases hloop.error_cases hx with h | ⟨e', h, -⟩ <;> cases h
    · cases h
    · cases h
  bundle _ h := absurd (harchive.symm.trans h) (by simp)

variable {e : Execution}

/-- **Behind an execution that was classified** the operation fails when it was cancelled, with no
bundle, or when the last call is a failure, with a bundle that was told so. -/
theorem LastRun.decided_of_failure {err : BuildError}
    (hloop : p.Compiling b r none cancelled files calls c x)
    (hlast : p.LastRun b r plan target x c last c' (.ok e)) (hselect : p.selectBackend r = .ok b)
    (hmessages : q.outcome.messages = calls.flatMap fun y => y.said b)
    (hend : (err = .tool (.cancelled b.executable) ∧ q'.outcome.archive = none) ∨
      (e.succeeds b = false ∧ e.wasCancelled = false ∧ Closed (p.archiver r clock) b e q q')) :
    p.Decided r clock (calls ++ last) { q' with outcome := q'.outcome.fail err } where
  success h := by simp [OperationOutcome.fail, OperationOutcome.enter] at h
  failure o subject h := by
    obtain rfl : err = .toolFailed o subject := Option.some.inj h
    rcases hend with ⟨hcancelled, -⟩ | ⟨hsucceeds, hended, hclosed⟩
    · cases hcancelled
    · obtain ⟨y, result, hget, hreply, hsuccess, hsuffix⟩ :=
        hlast.of_not_succeeds hloop hsucceeds hended
      rw [← hmessages, ← hclosed.messages] at hsuffix
      refine ⟨b, y, result, hselect, hget, hreply, hsuccess, hsuffix, ?_⟩
      by_contra hnone
      have hall : ∀ m ∈ (b.classifier.classify result).messages,
          m.severity.isFailure = false := by simpa using hnone
      rw [(Classifier.isSuccess_classify _ _).mpr hall] at hsuccess
      cases hsuccess
  bundle bundle h := by
    rcases hend with ⟨-, hnone⟩ | ⟨hsucceeds, -, hclosed⟩
    · exact absurd (hnone.symm.trans h) (by simp)
    · obtain ⟨one, t, hwrite⟩ := hclosed.bundle bundle h
      rw [hsucceeds] at hwrite
      exact ⟨one, t, hwrite⟩

/-- **Behind an execution that is a success** the operation succeeds, with a bundle that was told
so. -/
theorem LastRun.decided_of_success (hloop : p.Compiling b r none cancelled files calls c x)
    (hlast : p.LastRun b r plan target x c last c' (.ok e)) (hselect : p.selectBackend r = .ok b)
    (hmessages : q.outcome.messages = calls.flatMap fun y => y.said b)
    (herror : q.outcome.error = none) (hsucceeds : e.succeeds b = true)
    (hsucceeded : q'.outcome.succeeded = true) (hclosed : Closed (p.archiver r clock) b e q q') :
    p.Decided r clock (calls ++ last) q' where
  success _ := by
    have hdecided := hlast.of_succeeds hloop hsucceeds
    rw [← hmessages, ← hclosed.messages] at hdecided
    exact ⟨b, hselect, hdecided⟩
  failure _ _ h := absurd ((hclosed.error.trans herror).symm.trans h) (by simp)
  bundle bundle h := by
    obtain ⟨one, t, hwrite⟩ := hclosed.bundle bundle h
    rw [hsucceeds, ← hsucceeded] at hwrite
    exact ⟨one, t, hwrite⟩

end

/-- **Output decides on every operation.** -/
theorem decided_operate (p : Project) (run : Runner ρ) (r : OperationRequest) (clock : Clock)
    (cache : BuildCache) (session : Session ρ) :
    p.Decided r clock (p.callsOf run r clock cache session)
      (p.operate run r clock cache session) := by
  cases hphase : p.phase r cache.content session.files with
  | error e =>
    -- nothing was called, and the error is none of a tool
    obtain ⟨name, ho⟩ := operate_of_error run clock hphase
    rw [ho]
    refine ⟨fun h => ?_, fun o subject h => ?_, fun bundle h => ?_⟩
    · simp [OperationOutcome.fail, OperationOutcome.enter] at h
    · exact absurd (Option.some.inj h) (ne_toolFailed_of_phase hphase o subject)
    · simp [OperationOutcome.fail, OperationOutcome.enter, OperationOutcome.failedAt] at h
  | ok ph =>
    obtain ⟨c, x, last, answer, q, hexecute, hcalls, hloop, hlast, hledger, -⟩ :=
      exists_execution run clock hphase
    obtain ⟨hall, -, -⟩ := calls_operate_of_execution run clock hphase hexecute
    have hmessages := messages_of_ledger hloop hledger
    have hselect := (phase_eq_ok hphase).1
    obtain ⟨-, -, -, herror, -, harchive, -⟩ := isExecuting_of_executeFor hexecute
    have hphase' : p.phase r cache.content session.observed.files = .ok ph := hphase
    rw [hall, hcalls, ← operate_observed, operate_eq, run_stages run.observed clock hphase',
      run_bind, hexecute]
    cases answer with
    | error e => exact (hlast.decided_of_error hloop harchive).plain
    | ok e =>
      have hfinish : p.finishFor ph.backend r clock e =
        (finishWith (p.archiver r clock) ph.backend e : OperationStep (ρ × List Call) Unit) := rfl
      have hclosed := triple_finishWith_closed (p.archiver r clock) ph.backend e q harchive q rfl
      dsimp only
      rw [hfinish]
      rcases hrun : (finishWith (p.archiver r clock) ph.backend e).run q with ⟨err | u, q'⟩ <;>
        rw [hrun] at hclosed
      · exact (hlast.decided_of_failure hloop hselect hmessages hclosed).plain
      · obtain ⟨hsucceeds, hsucceeded, hclosed⟩ := hclosed
        exact (hlast.decided_of_success hloop hselect hmessages herror hsucceeds hsucceeded
          hclosed).plain

end Project

end RtlFlow
