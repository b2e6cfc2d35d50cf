import RtlFlow.Proofs.Build.Attempts

/-! # The compile phase of an operation

What an operation compiles is settled before a tool runs: `Project.phase` answers the backend, the
plan and the decisions on its files, or the error with which the operation ends. An operation does
to the cache and to the files what the loop over the files of its phase does (`credit_operate`):
nothing before and nothing behind the loop touches them. -/

namespace RtlFlow

open OperationStep

/-- **What an operation compiles.** -/
structure Phase where
  /-- The backend. -/
  backend : Backend
  /-- The target, if the operation has one. -/
  target : Option Target
  /-- The plan. -/
  plan : BuildPlan
  /-- The decisions on the files. -/
  filtered : FilteredPlan

/-- The outcome with which an operation begins to execute its phase. -/
def Phase.outcome (ph : Phase) : OperationOutcome where
  state := .executing
  transitions := [.planning, .filtering, .executing]
  backend := some ph.backend.name
  skipped := ph.filtered.skipped.map (·.file.path)

/-- The progress with which an operation begins to execute its phase. -/
def Phase.start {ρ : Type} (ph : Phase) (cache : BuildCache) (session : Session ρ) : Progress ρ :=
  ⟨session, cache, ph.outcome⟩

/-- **What an operation has come to** with its execution: the cache, the files compiled and skipped,
the error, and what the session holds besides its files. -/
def Progress.settled {ρ : Type} (q : Progress ρ) :
    BuildCache × List Path × List Path × Option BuildError × Bool × ρ :=
  (q.cache, q.outcome.compiled, q.outcome.skipped, q.outcome.error, q.session.cancelled,
    q.session.runner)

namespace Project

variable {ρ : Type} {p : Project} {run : Runner ρ} {r : OperationRequest} {clock : Clock}
  {cache : BuildCache} {session : Session ρ}

/-- **The compile phase of a request**, or the error that comes before it. -/
def phase (p : Project) (r : OperationRequest) (cache : CacheContent) (t : FileTree) :
    Except BuildError Phase := do
  let b ← p.selectBackend r
  let (target, plan) ← p.planFor b r t
  return ⟨b, target, plan, p.filterFor b r.kind plan cache t⟩

/-! ## What comes behind the execution -/

/-- **What an operation does with what executing has given**: it decides on it, archives its outputs
and ends. -/
def finishFor (p : Project) (b : Backend) (r : OperationRequest) (clock : Clock)
    (e : Execution) : OperationStep ρ Unit := do
  let succeeded ← classifyFor b e
  p.archiveFor r clock succeeded e
  if succeeded then onOutcome .succeed
  else throw (.toolFailed e.operation.keyword e.subject)

theorem keeps_judge (b : Backend) (e : Execution) (one : ToolRun) :
    Keeps Progress.settled (judge b e one : OperationStep ρ Bool) := by
  unfold judge
  split
  · exact .pure _
  · exact .bind (.onOutcome fun _ => rfl) fun _ => .pure _

theorem keeps_conclude (b : Backend) (one : ToolRun) :
    Keeps Progress.settled (conclude b one : OperationStep ρ Unit) := by
  unfold conclude
  refine .bind (.onOutcome fun _ => rfl) fun _ => ?_
  split
  · exact .bind (.onOutcome fun _ => rfl) fun _ => .throw _
  · exact .pure _

theorem keeps_classifyFor (b : Backend) (e : Execution) :
    Keeps Progress.settled (classifyFor b e : OperationStep ρ Bool) := by
  unfold classifyFor enter
  refine .bind (.onOutcome fun _ => rfl) fun _ => .bind (.onOutcome fun _ => rfl) fun _ => ?_
  cases e.run with
  | none => exact .pure _
  | some one =>
    exact .bind (keeps_judge b e one) fun _ => .bind (keeps_conclude b one) fun _ => .pure _

theorem keeps_archiveFor (p : Project) (r : OperationRequest) (clock : Clock) (succeeded : Bool)
    (e : Execution) :
    Keeps Progress.settled (p.archiveFor r clock succeeded e : OperationStep ρ Unit) := by
  unfold archiveFor enter
  refine .bind (.onOutcome fun _ => rfl) fun _ => ?_
  cases e.run with
  | none => exact .pure _
  | some one =>
    refine .modify fun q => ?_
    rcases Archive.write p.options.archiveDir r.kind p.options.projectId succeeded one.artifacts
      (some one.result) clock.stamp q.session.files with ⟨bundle | error, files⟩ <;> rfl

/-- **What comes behind the execution leaves alone what the execution has come to.** -/
theorem keeps_finishFor (p : Project) (b : Backend) (r : OperationRequest) (clock : Clock)
    (e : Execution) :
    Keeps Progress.settled (p.finishFor b r clock e : OperationStep ρ Unit) := by
  refine .bind (keeps_classifyFor b e) fun succeeded =>
    .bind (keeps_archiveFor p r clock succeeded e) fun _ => ?_
  split
  · exact .onOutcome fun _ => rfl
  · exact .throw _

/-- **Behind the loop only the target is run**, which leaves alone what does not look at the
session. -/
theorem view_executeFor {γ : Type} (view : Progress ρ → γ)
    (hview : ∀ q s, view { q with session := s } = view q) (p : Project) (run : Runner ρ)
    (b : Backend) (r : OperationRequest) (clock : Clock) (target : Option Target)
    (plan : BuildPlan) (filtered : FilteredPlan) (q : Progress ρ) :
    view ((p.executeFor run b r clock target plan filtered).run q).2 =
      view ((p.compileAll run b r clock none filtered.toBuild).run q).2 := by
  unfold executeFor
  refine view_run_bind (fun x => ?_) q
  cases x with
  | inl stopped => exact Keeps.pure _
  | inr log =>
    refine Keeps.bind (keeps_stopIfCancelled b) fun _ => ?_
    split
    · exact Keeps.bind (Keeps.ofRun hview _) fun _ => Keeps.pure _
    · exact Keeps.bind (Keeps.ofRun hview _) fun _ => Keeps.pure _
    · exact Keeps.pure _

/-! ## Operations -/

/-- A phase is made of the backend, the plan and the decisions. -/
theorem phase_eq_ok {c : CacheContent} {t : FileTree} {ph : Phase} (h : p.phase r c t = .ok ph) :
    p.selectBackend r = .ok ph.backend ∧
      p.planFor ph.backend r t = .ok (ph.target, ph.plan) ∧
      ph.filtered = p.filterFor ph.backend r.kind ph.plan c t := by
  unfold phase at h
  cases hbackend : p.selectBackend r with
  | error e => simp [hbackend, bind, Except.bind] at h
  | ok b =>
    cases hplan : p.planFor b r t with
    | error e => simp [hbackend, hplan, bind, Except.bind] at h
    | ok x =>
      obtain ⟨target, plan⟩ := x
      simp only [hbackend, hplan, bind, Except.bind, pure, Except.pure, Except.ok.injEq] at h
      obtain rfl := h
      exact ⟨rfl, hplan, rfl⟩

/-- The attempts of an operation; it has none when it ends before its phase. -/
def attemptsOf (p : Project) (run : Runner ρ) (r : OperationRequest) (clock : Clock)
    (cache : BuildCache) (session : Session ρ) : List Attempt :=
  match p.phase r cache.content session.files with
  | .error _ => []
  | .ok ph => p.attempts run ph.backend r clock ph.filtered.toBuild (ph.start cache session)

/-- The stages of an operation with a given step behind its execution. -/
def stagesThen (finish : Backend → Execution → OperationStep ρ Unit) (p : Project) (run : Runner ρ)
    (r : OperationRequest) (clock : Clock) : OperationStep ρ Unit := do
  let b ← ofResult (p.selectBackend r)
  onOutcome fun o => { o with backend := some b.name }
  let (target, plan) ← ofResult (p.planFor b r (← get).session.files)
  enter .filtering
  let q ← get
  let filtered := p.filterFor b r.kind plan q.cache.content q.session.files
  onOutcome fun o => { o with skipped := filtered.skipped.map (·.file.path) }
  enter .executing
  let execution ← p.executeFor run b r clock target plan filtered
  finish b execution

theorem stages_eq (p : Project) (run : Runner ρ) (r : OperationRequest) (clock : Clock) :
    p.stages run r clock = stagesThen (fun b => p.finishFor b r clock) p run r clock := rfl

/-- Whatever comes behind it, an operation with a phase comes to the execution of the phase. -/
theorem run_stagesThen (finish : Backend → Execution → OperationStep ρ Unit) (run : Runner ρ)
    (clock : Clock) {ph : Phase} (h : p.phase r cache.content session.files = .ok ph) :
    (stagesThen finish p run r clock).run ⟨session, cache, {}⟩ =
      (p.executeFor run ph.backend r clock ph.target ph.plan ph.filtered >>=
        finish ph.backend).run (ph.start cache session) := by
  obtain ⟨hbackend, hplan, hfiltered⟩ := phase_eq_ok h
  have hfiltered' : p.filterFor ph.backend r.kind ph.plan cache.content session.files =
      ph.filtered := hfiltered.symm
  unfold stagesThen enter
  rw [run_bind_of_ok (by rw [run_ofResult, hbackend]), run_bind_of_ok (run_onOutcome _ _),
    run_bind_of_ok (run_get _), run_bind_of_ok (by rw [run_ofResult, hplan])]
  simp only
  rw [run_bind_of_ok (run_onOutcome _ _), run_bind_of_ok (run_get _),
    run_bind_of_ok (run_onOutcome _ _), run_bind_of_ok (run_onOutcome _ _)]
  simp only [hfiltered']
  rfl

/-- **The stages of an operation with a phase** are the execution of the phase and what comes behind
it. -/
theorem run_stages (run : Runner ρ) (clock : Clock) {ph : Phase}
    (h : p.phase r cache.content session.files = .ok ph) :
    (p.stages run r clock).run ⟨session, cache, {}⟩ =
      (p.executeFor run ph.backend r clock ph.target ph.plan ph.filtered >>=
        p.finishFor ph.backend r clock).run (ph.start cache session) := by
  rw [stages_eq, run_stagesThen _ run clock h]

/-- **The stages of an operation without a phase** end before anything is done. -/
theorem run_stages_of_error (run : Runner ρ) (clock : Clock) {e : BuildError}
    (h : p.phase r cache.content session.files = .error e) :
    ∃ name, (p.stages run r clock).run ⟨session, cache, {}⟩ =
      (.error e, ⟨session, cache, { backend := name }⟩) := by
  unfold phase at h
  unfold stages
  cases hbackend : p.selectBackend r with
  | error e' =>
    obtain rfl : e' = e := by simpa [hbackend, bind, Except.bind] using h
    exact ⟨none, run_bind_of_error (run_ofResult _ _)⟩
  | ok b =>
    cases hplan : p.planFor b r session.files with
    | error e' =>
      obtain rfl : e' = e := by simpa [hbackend, hplan, bind, Except.bind] using h
      rw [run_bind_of_ok (run_ofResult _ _), run_bind_of_ok (run_onOutcome _ _),
        run_bind_of_ok (run_get _), run_bind_of_error (by rw [run_ofResult, hplan])]
      exact ⟨some b.name, rfl⟩
    | ok x => simp [hbackend, hplan, bind, Except.bind, pure, Except.pure] at h

/-- The stages of an operation with a phase come to what its execution has come to. -/
theorem settled_stages (run : Runner ρ) (clock : Clock) {ph : Phase}
    (h : p.phase r cache.content session.files = .ok ph) :
    ((p.stages run r clock).run ⟨session, cache, {}⟩).2.settled =
      ((p.executeFor run ph.backend r clock ph.target ph.plan ph.filtered).run
        (ph.start cache session)).2.settled := by
  rw [run_stages run clock h]
  exact view_run_bind (fun e => keeps_finishFor p ph.backend r clock e) _

/-- The stages of an operation with a phase do what the loop does. -/
theorem credit_stages {ph : Phase} (h : p.phase r cache.content session.files = .ok ph) :
    ((p.stages run r clock).run ⟨session, cache, {}⟩).2.credit =
      ((p.compileAll run ph.backend r clock none ph.filtered.toBuild).run
        (ph.start cache session)).2.credit := by
  rw [← view_executeFor Progress.credit (fun _ _ => rfl) p run ph.backend r clock
    ph.target ph.plan ph.filtered]
  exact congrArg (fun x => Credit.mk x.1.content x.2.1 x.2.2.1) (settled_stages run clock h)

/-- The stages of an operation without a phase do nothing to the cache and to the files. -/
theorem credit_stages_of_error {e : BuildError}
    (h : p.phase r cache.content session.files = .error e) :
    ((p.stages run r clock).run ⟨session, cache, {}⟩).2.credit = ⟨cache.content, [], []⟩ := by
  obtain ⟨name, hrun⟩ := run_stages_of_error run clock h
  rw [hrun]
  rfl

/-- Whatever comes of the stages, the operation leaves what they leave, and the outcome tells how
they have ended. -/
theorem operate_eq (p : Project) (run : Runner ρ) (r : OperationRequest) (clock : Clock)
    (cache : BuildCache) (session : Session ρ) :
    p.operate run r clock cache session =
      { ((p.stages run r clock).run ⟨session, cache, {}⟩).2 with
        outcome :=
          match (p.stages run r clock).run ⟨session, cache, {}⟩ with
          | (.ok (), q) => q.outcome
          | (.error e, q) => q.outcome.fail e } := by
  unfold operate
  rcases (p.stages run r clock).run ⟨session, cache, {}⟩ with ⟨e | u, q⟩ <;> rfl

/-- Whatever comes of the stages, their credit is that of the operation. -/
theorem credit_operate_eq :
    (p.operate run r clock cache session).credit =
      ((p.stages run r clock).run ⟨session, cache, {}⟩).2.credit := by
  rw [operate_eq]
  rcases (p.stages run r clock).run ⟨session, cache, {}⟩ with ⟨e | u, q⟩ <;> rfl

/-- **An operation does to the cache and to the files what its attempts do.** -/
theorem credit_operate (p : Project) (run : Runner ρ) (r : OperationRequest) (clock : Clock)
    (cache : BuildCache) (session : Session ρ) :
    (p.operate run r clock cache session).credit =
      (p.attemptsOf run r clock cache session).foldl (fun k a => a.settle clock.now k)
        ⟨cache.content, [], match p.phase r cache.content session.files with
          | .error _ => []
          | .ok ph => ph.filtered.skipped.map (·.file.path)⟩ := by
  rw [credit_operate_eq, attemptsOf]
  cases h : p.phase r cache.content session.files with
  | error e => exact credit_stages_of_error h
  | ok ph =>
    rw [credit_stages h, credit_compileAll]
    rfl

/-- The cache behind an operation is the work of its attempts. -/
theorem content_operate (p : Project) (run : Runner ρ) (r : OperationRequest) (clock : Clock)
    (cache : BuildCache) (session : Session ρ) :
    (p.operate run r clock cache session).cache.content =
      (p.attemptsOf run r clock cache session).foldl (fun c a => a.leave clock.now c)
        cache.content := by
  have hcredit := credit_operate p run r clock cache session
  rw [foldl_settle] at hcredit
  exact congrArg Credit.content hcredit

/-- The files compiled by an operation are those whose attempts passed. -/
theorem compiled_operate (p : Project) (run : Runner ρ) (r : OperationRequest) (clock : Clock)
    (cache : BuildCache) (session : Session ρ) :
    (p.operate run r clock cache session).outcome.compiled =
      (p.attemptsOf run r clock cache session).flatMap Attempt.credited := by
  have hcredit := credit_operate p run r clock cache session
  rw [foldl_settle] at hcredit
  exact congrArg Credit.compiled hcredit

/-- The files skipped by an operation are those that the decisions of its phase skip. -/
theorem skipped_operate (run : Runner ρ) (clock : Clock) {ph : Phase}
    (h : p.phase r cache.content session.files = .ok ph) :
    (p.operate run r clock cache session).outcome.skipped =
      ph.filtered.skipped.map (·.file.path) := by
  have hcredit := credit_operate p run r clock cache session
  rw [foldl_settle, h] at hcredit
  exact congrArg Credit.skipped hcredit

/-- The attempts of an operation with a phase are those of the loop. -/
theorem attemptsOf_eq (run : Runner ρ) (clock : Clock) {ph : Phase}
    (h : p.phase r cache.content session.files = .ok ph) :
    p.attemptsOf run r clock cache session =
      p.attempts run ph.backend r clock ph.filtered.toBuild (ph.start cache session) := by
  rw [attemptsOf, h]

/-- An operation without a phase skips nothing. -/
theorem skipped_operate_of_error (run : Runner ρ) (clock : Clock) {e : BuildError}
    (h : p.phase r cache.content session.files = .error e) :
    (p.operate run r clock cache session).outcome.skipped = [] := by
  have hcredit := credit_operate p run r clock cache session
  rw [foldl_settle, h] at hcredit
  exact congrArg Credit.skipped hcredit

/-! ## Operations that succeed -/

/-- A compile that did not succeed is no success. -/
theorem classifyFor_of_compileFailed {b : Backend} {e : Execution} (h : e.compileFailed = true)
    {q q' : Progress ρ} {succeeded : Bool}
    (hrun : (classifyFor b e).run q = (.ok succeeded, q')) : succeeded = false := by
  unfold classifyFor enter at hrun
  rw [run_bind_of_ok (run_onOutcome _ _), run_bind_of_ok (run_onOutcome _ _)] at hrun
  cases hone : e.run with
  | none =>
    rw [hone, h] at hrun
    exact (Except.ok.inj (congrArg Prod.fst hrun)).symm
  | some one =>
    -- it was judged when it was compiled
    have hjudge : (judge b e one : OperationStep ρ Bool) = pure false := by
      unfold judge
      rw [h]
      rfl
    rw [hone] at hrun
    dsimp only at hrun
    rw [hjudge, run_bind_of_ok (run_pure _ _), run_bind] at hrun
    rcases hconclude : (conclude b one).run _ with ⟨err | u, q''⟩ <;> rw [hconclude] at hrun
    · exact absurd (congrArg Prod.fst hrun) (by simp)
    · exact (Except.ok.inj (congrArg Prod.fst hrun)).symm

/-- **Behind a compile that did not succeed an operation fails.** -/
theorem finishFor_of_compileFailed (p : Project) (b : Backend) (r : OperationRequest)
    (clock : Clock) {e : Execution} (h : e.compileFailed = true) (q : Progress ρ) :
    ((p.finishFor b r clock e).run q).1 ≠ .ok () := by
  unfold finishFor
  rw [run_bind]
  rcases hclassify : (classifyFor b e).run q with ⟨err | succeeded, q'⟩
  · simp
  · obtain rfl := classifyFor_of_compileFailed h hclassify
    dsimp only
    rw [run_bind]
    rcases (p.archiveFor r clock false e).run q' with ⟨err | u, q''⟩ <;> simp

/-- **An operation that succeeds has compiled all its files.** -/
theorem attempts_of_succeeded (run : Runner ρ) (clock : Clock) {ph : Phase}
    (h : p.phase r cache.content session.files = .ok ph)
    (hsucceeded : (p.operate run r clock cache session).outcome.succeeded = true) :
    (p.attemptsOf run r clock cache session).map (·.file) = ph.filtered.toBuild ∧
      ∀ a ∈ p.attemptsOf run r clock cache session, a.ending.isPassed = true := by
  rw [operate_eq, run_stages run clock h, run_bind] at hsucceeded
  have hanswer := answer_compileAll p run ph.backend r clock none ph.filtered.toBuild
    (ph.start cache session)
  rw [attemptsOf_eq run clock h]
  unfold executeFor at hsucceeded
  rw [run_bind] at hsucceeded
  rcases hloop : (p.compileAll run ph.backend r clock none ph.filtered.toBuild).run
    (ph.start cache session) with ⟨e | stopped | log, q⟩ <;> rw [hloop] at hanswer hsucceeded
  · simp [OperationOutcome.fail, OperationOutcome.enter] at hsucceeded
  · -- the operation would have failed behind the loop
    exfalso
    have hfails := finishFor_of_compileFailed p ph.backend r clock hanswer q
    dsimp only [run_pure] at hsucceeded
    rcases hfinish : (p.finishFor ph.backend r clock stopped).run q with ⟨e | u, q'⟩
    · rw [hfinish] at hsucceeded
      simp [OperationOutcome.fail, OperationOutcome.enter] at hsucceeded
    · rw [hfinish] at hfails
      exact hfails rfl
  · exact hanswer

/-- The decisions of an operation other than a synthesis are those of its cache. -/
theorem filterFor_eq {b : Backend} {o : Operation} {plan : BuildPlan} {c : CacheContent}
    {t : FileTree} (hsupports : b.capabilities.supports .compile = true) (ho : o ≠ .synthesize) :
    p.filterFor b o plan c t =
      c.filter plan b.name (fun f => (t.fingerprint f).toOption)
        (libraryPresent b (p.options.workDir o) t) := by
  unfold filterFor
  rw [if_pos hsupports]
  exact if_neg ho

end Project

end RtlFlow
