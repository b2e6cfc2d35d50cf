import RtlFlow.Proofs.Build.Phases

/-! # Observed runners

An observed runner takes down its calls, each with what it was asked, what it has answered, and
whether cancellation had been asked for before and afterwards. Steps that are run with it do what
they do with the runner itself (`Observes`), so that observing changes nothing in an operation
(`Project.operate_observed`), and the calls that were taken down are the calls of the operation. -/

namespace RtlFlow

open OperationStep

/-- **A call of a runner.** -/
structure Call where
  /-- What it was asked to carry out. -/
  invocation : Invocation
  /-- Cancellation had been asked for when it began. -/
  cancelledBefore : Bool
  /-- What it has answered: a result, or why a command could not be started. -/
  reply : Except ToolError ToolResult
  /-- Cancellation had been asked for when it was over. -/
  cancelledAfter : Bool

/-- An invocation with a limit on its time in place of its own, where one is given. -/
def Invocation.within (limit : Option Duration) (i : Invocation) : Invocation :=
  { i with timeout := limit.or i.timeout }

section Observing

variable {ρ : Type}

/-- A session without the calls that were taken down. -/
def Session.plain (s : Session (ρ × List Call)) : Session ρ := ⟨s.files, s.cancelled, s.runner.1⟩

/-- A session in which no call was taken down so far. -/
def Session.observed (s : Session ρ) : Session (ρ × List Call) :=
  ⟨s.files, s.cancelled, (s.runner, [])⟩

/-- **A runner that takes down its calls**, one behind the other. -/
def Runner.observed (run : Runner ρ) : Runner (ρ × List Call) := fun i s =>
  let (reply, s') := run i s.plain
  (reply, ⟨s'.files, s'.cancelled,
    (s'.runner, s.runner.2 ++ [⟨i, s.cancelled, reply, s'.cancelled⟩])⟩)

/-- A progress without the calls that were taken down. -/
def Progress.plain (q : Progress (ρ × List Call)) : Progress ρ :=
  ⟨q.session.plain, q.cache, q.outcome⟩

/-- The calls that were taken down. -/
def Progress.calls (q : Progress (ρ × List Call)) : List Call := q.session.runner.2

end Observing

namespace OperationStep

variable {ρ α β : Type}

/-! ## Steps with an observed runner -/

/-- **A step that does what another one does** and takes down calls besides. -/
def Observes (a' : OperationStep (ρ × List Call) α) (a : OperationStep ρ α) : Prop :=
  ∀ q, a.run q.plain = ((a'.run q).1, (a'.run q).2.plain)

theorem Observes.pure (x : α) :
    Observes (Pure.pure x : OperationStep (ρ × List Call) α) (Pure.pure x) := fun _ => rfl

theorem Observes.throw (e : BuildError) :
    Observes (MonadExcept.throw e : OperationStep (ρ × List Call) α) (MonadExcept.throw e) :=
  fun _ => rfl

theorem Observes.ofResult (r : Except BuildError α) :
    Observes (OperationStep.ofResult r : OperationStep (ρ × List Call) α)
      (OperationStep.ofResult r) := fun _ => rfl

theorem Observes.onOutcome (f : OperationOutcome → OperationOutcome) :
    Observes (OperationStep.onOutcome f : OperationStep (ρ × List Call) Unit)
      (OperationStep.onOutcome f) := fun _ => rfl

theorem Observes.onCache (f : BuildCache → StateM FileTree (BuildCache × Option CacheError)) :
    Observes (OperationStep.onCache f : OperationStep (ρ × List Call) Unit)
      (OperationStep.onCache f) := fun _ => rfl

theorem Observes.bind {a' : OperationStep (ρ × List Call) α} {a : OperationStep ρ α}
    {f' : α → OperationStep (ρ × List Call) β} {f : α → OperationStep ρ β} (ha : Observes a' a)
    (hf : ∀ x, Observes (f' x) (f x)) : Observes (a' >>= f') (a >>= f) := by
  intro q
  rw [run_bind, run_bind, ha q]
  rcases a'.run q with ⟨e | x, q'⟩
  · rfl
  · exact hf x q'

/-- A step that looks at the progress does not look at the calls. -/
theorem Observes.get_bind {f' : Progress (ρ × List Call) → OperationStep (ρ × List Call) β}
    {f : Progress ρ → OperationStep ρ β} (hf : ∀ q, Observes (f' q) (f q.plain)) :
    Observes (get >>= f') (get >>= f) := by
  intro q
  rw [run_bind_of_ok (run_get q), run_bind_of_ok (run_get q.plain)]
  exact hf q q

theorem Observes.stopIfCancelled (b : Backend) :
    Observes (OperationStep.stopIfCancelled b : OperationStep (ρ × List Call) Unit)
      (OperationStep.stopIfCancelled b) := by
  intro q
  rw [run_stopIfCancelled, run_stopIfCancelled]
  show (if q.session.cancelled then _ else _) = _
  split <;> rfl

/-- **A run of a tool**: nothing is called when no invocation could be made, and otherwise the
runner is called once. -/
theorem run_ofRun_execute (run : Runner ρ) (limit : Option Duration)
    (made : Except ToolError Invocation) (q : Progress ρ) :
    (ofRun (run.execute limit made)).run q =
      match made.map (·.within limit) with
      | .error e => (.error (.tool e), q)
      | .ok i =>
        match run i q.session with
        | (.error e, s) => (.error (.tool e), { q with session := s })
        | (.ok result, s) => (.ok ⟨result, i.artifacts⟩, { q with session := s }) := by
  cases made with
  | error e => rfl
  | ok i =>
    show (ofRun (run.execute limit (.ok i)) : OperationStep ρ ToolRun) q = _
    unfold ofRun Runner.execute
    simp only [Except.map, Invocation.within, bind, ExceptT.bind, ExceptT.mk, StateT.bind,
      ExceptT.bindCont]
    rcases run { i with timeout := limit.or i.timeout } q.session with ⟨e | result, s⟩ <;> rfl

/-- An observed runner does to the session what the runner does. -/
theorem Observes.ofRun_execute (run : Runner ρ) (limit : Option Duration)
    (made : Except ToolError Invocation) :
    Observes (ofRun (run.observed.execute limit made)) (ofRun (run.execute limit made)) := by
  intro q
  rw [run_ofRun_execute, run_ofRun_execute]
  cases made.map (·.within limit) with
  | error e => rfl
  | ok i =>
    show (match run i q.session.plain with | (.error e, s) => _ | (.ok result, s) => _) = _
    simp only [Runner.observed]
    rcases run i q.session.plain with ⟨e | result, s⟩ <;> rfl

end OperationStep

namespace Project

variable {ρ : Type}

/-! ## Operations with an observed runner -/

theorem observes_settle (b : Backend) (clock : Clock) (f : PlannedFile) (one : ToolRun) :
    Observes (settle b clock f one : OperationStep (ρ × List Call) Unit)
      (settle b clock f one) := by
  unfold settle
  split
  · refine .bind (.onOutcome _) fun _ => ?_
    split
    · split
      · exact .bind (.onCache _) fun _ => .onOutcome _
      · exact .onOutcome _
    · exact .onCache _
  · exact .pure _

theorem observes_compileOne (p : Project) (run : Runner ρ) (b : Backend) (r : OperationRequest)
    (clock : Clock) (f : PlannedFile) :
    Observes (p.compileOne run.observed b r clock f) (p.compileOne run b r clock f) :=
  .bind (.stopIfCancelled b) fun _ => .bind (.ofRun_execute run _ _) fun one =>
    .bind (observes_settle b clock f one) fun _ => .pure _

theorem observes_compileAll (p : Project) (run : Runner ρ) (b : Backend) (r : OperationRequest)
    (clock : Clock) (log : Option ToolRun) (files : List PlannedFile) :
    Observes (p.compileAll run.observed b r clock log files)
      (p.compileAll run b r clock log files) := by
  induction files generalizing log with
  | nil => exact .pure _
  | cons f files ih =>
    refine .bind (observes_compileOne p run b r clock f) fun one => ?_
    dsimp only
    split
    · exact ih _
    · exact .pure _

theorem observes_executeFor (p : Project) (run : Runner ρ) (b : Backend) (r : OperationRequest)
    (clock : Clock) (target : Option Target) (plan : BuildPlan) (filtered : FilteredPlan) :
    Observes (p.executeFor run.observed b r clock target plan filtered)
      (p.executeFor run b r clock target plan filtered) := by
  refine .bind (observes_compileAll p run b r clock none _) fun x => ?_
  cases x with
  | inl stopped => exact .pure _
  | inr log =>
    refine .bind (.stopIfCancelled b) fun _ => ?_
    split
    · exact .bind (.ofRun_execute run _ _) fun _ => .pure _
    · exact .bind (.ofRun_execute run _ _) fun _ => .pure _
    · exact .pure _

theorem observes_judge (b : Backend) (e : Execution) (one : ToolRun) :
    Observes (judge b e one : OperationStep (ρ × List Call) Bool) (judge b e one) := by
  unfold judge
  split
  · exact .pure _
  · exact .bind (.onOutcome _) fun _ => .pure _

theorem observes_conclude (b : Backend) (one : ToolRun) :
    Observes (conclude b one : OperationStep (ρ × List Call) Unit) (conclude b one) := by
  refine .bind (.onOutcome _) fun _ => ?_
  split
  · exact .bind (.onOutcome _) fun _ => .throw _
  · exact .pure _

theorem observes_classifyFor (b : Backend) (e : Execution) :
    Observes (classifyFor b e : OperationStep (ρ × List Call) Bool) (classifyFor b e) := by
  refine .bind (.onOutcome _) fun _ => .bind (.onOutcome _) fun _ => ?_
  cases e.run with
  | none => exact .pure _
  | some one =>
    exact .bind (observes_judge b e one) fun _ => .bind (observes_conclude b one) fun _ => .pure _

theorem observes_archiveFor (p : Project) (r : OperationRequest) (clock : Clock)
    (succeeded : Bool) (e : Execution) :
    Observes (p.archiveFor r clock succeeded e : OperationStep (ρ × List Call) Unit)
      (p.archiveFor r clock succeeded e) := by
  refine .bind (.onOutcome _) fun _ => ?_
  cases e.run with
  | none => exact .pure _
  | some one => exact fun q => rfl

theorem observes_stages (p : Project) (run : Runner ρ) (r : OperationRequest) (clock : Clock) :
    Observes (p.stages run.observed r clock) (p.stages run r clock) := by
  refine .bind (.ofResult _) fun b => .bind (.onOutcome _) fun _ => .get_bind fun q =>
    .bind (.ofResult _) fun x => .bind (.onOutcome _) fun _ => .get_bind fun q =>
      .bind (.onOutcome _) fun _ => .bind (.onOutcome _) fun _ =>
        .bind (observes_executeFor p run _ r clock _ _ _) fun e =>
          .bind (observes_classifyFor _ e) fun succeeded =>
            .bind (observes_archiveFor p r clock succeeded e) fun _ => ?_
  split
  · exact .onOutcome _
  · exact .throw _

/-- **Observing the runner changes nothing else** in an operation. -/
theorem operate_observed (p : Project) (run : Runner ρ) (r : OperationRequest) (clock : Clock)
    (cache : BuildCache) (session : Session ρ) :
    (p.operate run.observed r clock cache session.observed).plain =
      p.operate run r clock cache session := by
  -- without its calls, the progress at the start is that of the runner itself
  have hstages : (p.stages run r clock).run ⟨session, cache, {}⟩ = _ :=
    observes_stages p run r clock ⟨session.observed, cache, {}⟩
  unfold operate
  rw [hstages]
  rcases (p.stages run.observed r clock).run ⟨session.observed, cache, {}⟩ with ⟨e | u, q⟩ <;> rfl

/-- **The calls of an operation**, in their order. -/
def callsOf (p : Project) (run : Runner ρ) (r : OperationRequest) (clock : Clock)
    (cache : BuildCache) (session : Session ρ) : List Call :=
  (p.operate run.observed r clock cache session.observed).calls

end Project

end RtlFlow
