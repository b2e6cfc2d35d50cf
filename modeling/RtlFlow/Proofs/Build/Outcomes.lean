import RtlFlow.Proofs.Build.Calls

/-! # Outcomes of operations

The outcome of an operation is that of a small machine. It enters the states of one row, one after
the other (`OperationOutcome.Underway`), and ends in one of two more; whether it has succeeded, in
which state it is, its error and the state in which it failed tell the same (`Lawful`), whichever of
its exits it takes. Archiving is the last thing that it does, and nothing but the bundle and its
error depends on how that ends (`Project.lawful_operate`). -/

namespace RtlFlow

open OperationStep

/-- **The states through which an operation passes**, in their order. -/
def BuildState.row : List BuildState :=
  [.planning, .filtering, .executing, .classifying, .archiving]

namespace OperationOutcome

/-- **The outcome of an operation that has entered the first `n` states of the row** and has not
come to its end. -/
structure Underway (n : Nat) (o : OperationOutcome) : Prop where
  /-- There are no more states. -/
  le : n ≤ 5
  /-- They were entered in their order. -/
  transitions : o.transitions = BuildState.row.take n
  /-- The operation is in the last one. -/
  state : o.transitions.getLast? = some o.state
  /-- It has not succeeded so far. -/
  unfinished : o.succeeded = false
  /-- It has no error so far. -/
  error : o.error = none
  /-- If it is known already where it has failed, it has been there. -/
  visited : ∀ s, o.failedIn = some s → s ∈ o.transitions
  /-- Nothing is archived before its time. -/
  unarchived : n < 5 → o.archive = none ∧ o.archiveError = none

/-- **The outcome of an operation that has come to its end.** -/
structure Lawful (o : OperationOutcome) : Prop where
  /-- The first states of the row were entered, at least one of them, and then one of the two in
  which an operation ends; the one of success behind all of the row only. -/
  transitions : ∃ n terminal, 0 < n ∧ n ≤ BuildState.row.length ∧
    o.transitions = BuildState.row.take n ++ [terminal] ∧
    (terminal = .done ∧ n = BuildState.row.length ∨ terminal = .failed)
  /-- The state is the one entered last. -/
  state : o.transitions.getLast? = some o.state
  /-- The state of success is that of the operations that have succeeded. -/
  done : o.state = .done ↔ o.succeeded = true
  /-- They are those without an error. -/
  error : o.error = none ↔ o.succeeded = true
  /-- They are those that have failed in no state. -/
  failedIn : o.failedIn = none ↔ o.succeeded = true
  /-- The state in which an operation has failed is one of the row that was entered. -/
  visited : ∀ s, o.failedIn = some s → s ∈ o.transitions ∧ s ∈ BuildState.row
  /-- What was archived, and what went wrong with it, comes from archiving. -/
  archived : o.archive.isSome = true ∨ o.archiveError.isSome = true → .archiving ∈ o.transitions

variable {n : Nat} {o : OperationOutcome}

/-- An operation begins in the first state. -/
theorem Underway.start : Underway 1 {} :=
  ⟨by decide, rfl, rfl, rfl, rfl, by simp, fun _ => ⟨rfl, rfl⟩⟩

/-- The next state of the row is entered. -/
theorem Underway.enter (h : Underway n o) {s : BuildState} (hs : BuildState.row[n]? = some s) :
    Underway (n + 1) (o.enter s) where
  le := (List.getElem?_eq_some_iff.mp hs).1
  transitions := by
    rw [List.take_add_one, hs, ← h.transitions]
    rfl
  state := by simp [OperationOutcome.enter]
  unfinished := h.unfinished
  error := h.error
  visited s hfailed := List.mem_append_left _ (h.visited s hfailed)
  unarchived hn := h.unarchived (Nat.lt_of_succ_lt hn)

/-- An outcome underway has entered a state. -/
theorem Underway.pos (h : Underway n o) : 0 < n := by
  refine Nat.pos_of_ne_zero fun hzero => ?_
  have hstate := h.state
  rw [h.transitions, hzero] at hstate
  simp at hstate

/-- The states entered are those of the row. -/
theorem Underway.mem_row (h : Underway n o) {s : BuildState} (hs : s ∈ o.transitions) :
    s ∈ BuildState.row :=
  List.mem_of_mem_take (h.transitions ▸ hs)

/-- **An operation may end in an error wherever it is.** -/
theorem Underway.fail (h : Underway n o) (e : BuildError) : (o.fail e).Lawful where
  transitions := ⟨n, .failed, h.pos, h.le, congrArg (· ++ [BuildState.failed]) h.transitions,
    .inr rfl⟩
  state := by simp [OperationOutcome.fail, OperationOutcome.enter]
  done := by simp [OperationOutcome.fail, OperationOutcome.enter]
  error := by simp [OperationOutcome.fail, OperationOutcome.enter]
  failedIn := by simp [OperationOutcome.fail, OperationOutcome.enter, failedAt]
  visited s hs := by
    have hmem : s ∈ o.transitions := by
      rcases Option.or_eq_some_iff.mp hs with hknown | ⟨-, hhere⟩
      · exact h.visited s hknown
      · exact List.mem_of_getLast? (h.state.trans hhere)
    exact ⟨List.mem_append_left _ hmem, h.mem_row hmem⟩
  archived hsome := by
    have hall : n = 5 := by
      by_contra hne
      obtain ⟨harchive, herror⟩ := h.unarchived (lt_of_le_of_ne h.le hne)
      simp [OperationOutcome.fail, OperationOutcome.enter, failedAt, harchive, herror] at hsome
    refine List.mem_append_left _ (show .archiving ∈ o.transitions from ?_)
    rw [h.transitions, hall]
    decide

/-- **An operation succeeds behind the whole row.** -/
theorem Underway.succeed (h : Underway 5 o) (hfailed : o.failedIn = none) : o.succeed.Lawful where
  transitions := ⟨5, .done, by decide, le_rfl, congrArg (· ++ [BuildState.done]) h.transitions,
    .inl ⟨rfl, rfl⟩⟩
  state := by simp [OperationOutcome.succeed, OperationOutcome.enter]
  done := by simp [OperationOutcome.succeed, OperationOutcome.enter]
  error := by simp [OperationOutcome.succeed, OperationOutcome.enter, h.error]
  failedIn := by simp [OperationOutcome.succeed, OperationOutcome.enter, hfailed]
  visited s hs := by
    have hnone : o.failedIn = some s := hs
    simp [hfailed] at hnone
  archived _ := by
    refine List.mem_append_left _ (show .archiving ∈ o.transitions from ?_)
    rw [h.transitions]
    decide

end OperationOutcome

/-- A progress without what comes of archiving: the bundle, its error and the files. -/
def Progress.unarchived {ρ : Type} (q : Progress ρ) : BuildCache × OperationOutcome × Bool × ρ :=
  (q.cache, { q.outcome with archive := none, archiveError := none }, q.session.cancelled,
    q.session.runner)

namespace Execution

/-- Whether the run that decides was cancelled. -/
def wasCancelled (e : Execution) : Bool := e.run.any (·.result.wasCancelled)

/-- **Whether what executing has given is a success**: no compile has failed, and neither has the
run behind the compiles, if there is one. -/
def succeeds (b : Backend) (e : Execution) : Bool :=
  !e.compileFailed && (e.operation = .compile ||
    e.run.all fun one => (b.classifier.classify one.result).verdict.isSuccess)

/-- **The output that is classified behind the execution**: that of the run behind the compiles. -/
def said (b : Backend) (e : Execution) : List Message :=
  if e.compileFailed || e.operation = .compile then []
  else e.run.toList.flatMap fun one => (b.classifier.classify one.result).messages

/-- **What deciding on an execution makes of an outcome**: the state is entered and the output is
added, and where the operation has failed is set, unless the execution is a success that was not
cancelled. -/
structure Judged (b : Backend) (e : Execution) (o o' : OperationOutcome) : Prop where
  /-- Nothing else changes but the result that is shown. -/
  eq : { o' with failedIn := o.failedIn, toolResult := o.toolResult } =
    { o.enter .classifying with messages := o.messages ++ e.said b }
  /-- It has failed where the run was made or where its output was classified. -/
  visited : ∀ s, o'.failedIn = some s →
    o.failedIn = some s ∨ s = .executing ∨ s = .classifying
  /-- A success has not failed. -/
  success : e.wasCancelled = false → e.succeeds b = true → o'.failedIn = o.failedIn

end Execution

namespace Project

variable {ρ : Type} {b : Backend} {e : Execution}

/-! ## Archiving -/

/-- **A way of archiving** the outputs of a run, which is told whether the operation has
succeeded. -/
abbrev Archiver := Bool → ToolRun → FileAction ArchiveError Archive.Bundle

/-- The way of archiving of a project. -/
def archiver (p : Project) (r : OperationRequest) (clock : Clock) : Archiver :=
  fun succeeded one => Archive.write p.options.archiveDir r.kind p.options.projectId succeeded
    one.artifacts (some one.result) clock.stamp

/-- Archives in a given way. -/
def archiveWith (a : Archiver) (succeeded : Bool) (e : Execution) : OperationStep ρ Unit := do
  enter .archiving
  match e.run with
  | none => pure ()
  | some run =>
    modify fun q =>
      let (result, files) := a succeeded run q.session.files
      let outcome :=
        match result with
        | .ok bundle => { q.outcome with archive := some bundle }
        | .error error => { q.outcome with archiveError := some error }
      { q with outcome, session := { q.session with files } }

/-- What comes behind the execution of an operation that archives in a given way. -/
def finishWith (a : Archiver) (b : Backend) (e : Execution) : OperationStep ρ Unit := do
  let succeeded ← classifyFor b e
  archiveWith a succeeded e
  if succeeded then onOutcome .succeed
  else throw (.toolFailed e.operation.keyword e.subject)

/-- The stages of an operation that archives in a given way. -/
def stagesWith (a : Archiver) (p : Project) (run : Runner ρ) (r : OperationRequest)
    (clock : Clock) : OperationStep ρ Unit := do
  let b ← ofResult (p.selectBackend r)
  onOutcome fun o => { o with backend := some b.name }
  let (target, plan) ← ofResult (p.planFor b r (← get).session.files)
  enter .filtering
  let q ← get
  let filtered := p.filterFor b r.kind plan q.cache.content q.session.files
  onOutcome fun o => { o with skipped := filtered.skipped.map (·.file.path) }
  enter .executing
  let execution ← p.executeFor run b r clock target plan filtered
  finishWith a b execution

/-- **An operation that archives in a given way.** -/
def operateWith (a : Archiver) (p : Project) (run : Runner ρ) (r : OperationRequest)
    (clock : Clock) (cache : BuildCache) (session : Session ρ) : Progress ρ :=
  match (stagesWith a p run r clock).run ⟨session, cache, {}⟩ with
  | (.ok (), q) => q
  | (.error e, q) => { q with outcome := q.outcome.fail e }

/-- An operation archives in the way of its project. -/
theorem operateWith_archiver (p : Project) (run : Runner ρ) (r : OperationRequest) (clock : Clock)
    (cache : BuildCache) (session : Session ρ) :
    operateWith (p.archiver r clock) p run r clock cache session =
      p.operate run r clock cache session := rfl

/-! ## Deciding on an execution -/

/-- In a success the compiles have not failed. -/
theorem compileFailed_of_succeeds (h : e.succeeds b = true) : e.compileFailed = false := by
  simpa [Execution.succeeds] using (Bool.and_eq_true_iff.mp h).1

/-- The run that decides is judged by its output, unless it is a compile. -/
theorem run_judge {one : ToolRun} (h : e.run = some one) (q : Progress ρ) :
    (judge b e one).run q = (.ok (e.succeeds b), { q with outcome := { q.outcome with
      messages := q.outcome.messages ++ e.said b
      failedIn := if e.compileFailed || e.succeeds b then q.outcome.failedIn
        else some .classifying } }) := by
  unfold judge Execution.succeeds Execution.said
  rw [h]
  cases e.compileFailed
  · by_cases ho : e.operation = .compile
    · simp [ho]
    · rw [if_neg (by simp [ho])]
      cases hsuccess : (b.classifier.classify one.result).verdict.isSuccess <;>
        rw [run_bind_of_ok (run_onOutcome _ _)] <;> simp [ho, hsuccess]
  · simp

/-- A run that was cancelled ends the operation. -/
theorem run_conclude (one : ToolRun) (q : Progress ρ) :
    (conclude b one).run q =
      if one.result.wasCancelled then (.error (.tool (.cancelled b.executable)),
        { q with outcome := { q.outcome with toolResult := some one.result }.failedAt .executing })
      else (.ok (), { q with outcome := { q.outcome with toolResult := some one.result } }) := by
  unfold conclude
  cases hcancelled : one.result.wasCancelled <;> simp [run_bind]

/-- Where an operation has failed is known when it comes to the end of classifying. -/
theorem failedIn_cases {before : Option BuildState} {s : BuildState}
    (h : (if e.compileFailed || e.succeeds b then
        if e.compileFailed then some .executing else before
      else some .classifying) = some s) :
    before = some s ∨ s = .executing ∨ s = .classifying := by
  split_ifs at h
  · exact Or.inr (Or.inl (Option.some.inj h).symm)
  · exact Or.inl h
  · exact Or.inr (Or.inr (Option.some.inj h).symm)

/-- **Classifying decides on what executing has given**, unless that was cancelled. -/
theorem triple_classifyFor (b : Backend) (e : Execution) (q : Progress ρ) :
    Triple (· = q) (classifyFor b e)
      (fun succeeded q' => succeeded = e.succeeds b ∧ e.wasCancelled = false ∧
        e.Judged b q.outcome q'.outcome ∧ q'.session = q.session ∧ q'.cache = q.cache)
      (fun err q' => err = .tool (.cancelled b.executable) ∧ e.Judged b q.outcome q'.outcome) := by
  rintro q rfl
  unfold classifyFor enter
  rw [run_bind_of_ok (run_onOutcome _ _), run_bind_of_ok (run_onOutcome _ _)]
  cases hrun : e.run with
  | none =>
    have hsaid : e.said b = [] := by simp [Execution.said, hrun]
    refine ⟨by simp [Execution.succeeds, hrun], by simp [Execution.wasCancelled, hrun], ?_, rfl,
      rfl⟩
    refine ⟨by simp [hsaid, OperationOutcome.enter], fun s hs => ?_, fun _ hsucceeds => ?_⟩
    · cases hfailed : e.compileFailed <;> simp [hfailed, OperationOutcome.enter] at hs
      · exact Or.inl hs
      · exact Or.inr (Or.inl hs.symm)
    · simp [compileFailed_of_succeeds hsucceeds, OperationOutcome.enter]
  | some one =>
    have hended : e.wasCancelled = one.result.wasCancelled := by
      simp [Execution.wasCancelled, hrun]
    dsimp only
    rw [run_bind_of_ok (run_judge hrun _), run_bind, run_conclude, hended]
    cases hcancelled : one.result.wasCancelled with
    | false =>
      refine ⟨rfl, rfl, ⟨rfl, fun _ => failedIn_cases, fun _ hsucceeds => ?_⟩, rfl, rfl⟩
      simp [compileFailed_of_succeeds hsucceeds, hsucceeds, OperationOutcome.enter]
    | true =>
      refine ⟨rfl, ⟨rfl, fun s hs => ?_, fun hnot => ?_⟩⟩
      · rcases Option.or_eq_some_iff.mp hs with hknown | ⟨-, hhere⟩
        · exact failedIn_cases hknown
        · exact Or.inr (Or.inl (Option.some.inj hhere).symm)
      · simp [hended, hcancelled] at hnot

/-! ## The row of states -/

/-- Deciding on an execution goes on to the next state. -/
theorem underway_of_judged {o o' : OperationOutcome} (h : o.Underway 3)
    (hjudged : e.Judged b o o') : o'.Underway 4 := by
  obtain ⟨heq, hvisited, -⟩ := hjudged
  have henter : (o.enter .classifying).Underway 4 := h.enter rfl
  have hrest : OperationOutcome.Underway 4
      { o' with failedIn := o.failedIn, toolResult := o.toolResult } := by
    rw [heq]
    exact { henter with }
  have htransitions : o'.transitions = BuildState.row.take 4 := hrest.transitions
  refine { hrest with visited := fun s hs => ?_ }
  rcases hvisited s hs with hknown | rfl | rfl
  · exact hrest.visited s hknown
  · rw [htransitions]
    decide
  · rw [htransitions]
    decide

/-- **Archiving is the last state of the row**, whatever comes of it. -/
theorem triple_archiveWith (a : Archiver) (succeeded : Bool) (e : Execution) :
    Triple (ρ := ρ)
      (fun q => q.outcome.Underway 4 ∧ (succeeded = true → q.outcome.failedIn = none))
      (archiveWith a succeeded e)
      (fun _ q => q.outcome.Underway 5 ∧ (succeeded = true → q.outcome.failedIn = none))
      (fun _ q => ∃ n, q.outcome.Underway n) := by
  unfold archiveWith enter
  refine .bind (Q := fun _ q => q.outcome.Underway 5 ∧ (succeeded = true →
    q.outcome.failedIn = none)) (.onOutcome fun q hq => ⟨hq.1.enter rfl, hq.2⟩) fun _ => ?_
  cases e.run with
  | none => exact .pure fun q hq => hq
  | some one =>
    refine .modify fun q hq => ?_
    dsimp only
    rcases a succeeded one q.session.files with ⟨bundle | error, files⟩
    · exact ⟨{ hq.1 with unarchived := fun hn => absurd hn (by decide) }, hq.2⟩
    · exact ⟨{ hq.1 with unarchived := fun hn => absurd hn (by decide) }, hq.2⟩

/-- **What comes behind the execution goes to the end of the row**, or an error ends it. -/
theorem triple_finishWith (a : Archiver) (b : Backend) (e : Execution) :
    Triple (ρ := ρ) (fun q => q.outcome.Underway 3 ∧ q.outcome.failedIn = none)
      (finishWith a b e) (fun _ q => q.outcome.Lawful) (fun _ q => ∃ n, q.outcome.Underway n) := by
  refine .bind (Q := fun succeeded q => q.outcome.Underway 4 ∧ (succeeded = true →
    q.outcome.failedIn = none)) (.of_start fun q hq => ?_) fun succeeded =>
    .bind (triple_archiveWith a succeeded e) fun _ => ?_
  · obtain ⟨hunderway, hnone⟩ := hq
    refine (triple_classifyFor b e q).mono ?_ ?_
    · rintro _ q' ⟨rfl, hended, hjudged, -, -⟩
      exact ⟨underway_of_judged hunderway hjudged, fun hsucceeds =>
        (hjudged.success hended hsucceeds).trans hnone⟩
    · rintro err q' ⟨-, hjudged⟩
      exact ⟨4, underway_of_judged hunderway hjudged⟩
  · -- only a success comes to its end without an error
    cases succeeded with
    | true => exact .onOutcome fun q hq => hq.1.succeed (hq.2 rfl)
    | false => exact .throw fun q hq => ⟨5, hq.1⟩

/-- Executing goes neither on in the row nor back. -/
theorem triple_executeFor (p : Project) (run : Runner ρ) (b : Backend) (r : OperationRequest)
    (clock : Clock) (target : Option Target) (plan : BuildPlan) (filtered : FilteredPlan) :
    Triple (fun q => q.outcome.Underway 3 ∧ q.outcome.failedIn = none)
      (p.executeFor run b r clock target plan filtered)
      (fun _ q => q.outcome.Underway 3 ∧ q.outcome.failedIn = none)
      (fun _ q => ∃ n, q.outcome.Underway n) :=
  (keeps_outcome_executeFor p run b r clock target plan filtered).triple
    (I := fun o => o.Underway 3 ∧ o.failedIn = none) (fun _ hq => ⟨{ hq.1 with }, hq.2⟩)
    (fun _ _ hq => ⟨{ hq.1 with }, hq.2⟩) fun _ _ hq => ⟨3, { hq.1 with }⟩

/-- **An operation enters its states one after the other**, and comes to its end behind the last
one or in an error. -/
theorem triple_stagesWith (a : Archiver) (p : Project) (run : Runner ρ) (r : OperationRequest)
    (clock : Clock) :
    Triple (fun q => q.outcome.Underway 1 ∧ q.outcome.failedIn = none)
      (stagesWith a p run r clock) (fun _ q => q.outcome.Lawful)
      (fun _ q => ∃ n, q.outcome.Underway n) := by
  refine .bind (.ofResult (fun _ _ _ hq => hq) fun _ _ _ hq => ⟨1, hq.1⟩) fun b =>
    .bind (Q := fun _ q => q.outcome.Underway 1 ∧ q.outcome.failedIn = none)
      (.onOutcome fun _ hq => ⟨{ hq.1 with }, hq.2⟩) fun _ => .get_bind fun q hq =>
    .bind (.ofResult (fun _ _ _ hq => hq) ?_) fun x =>
    .bind (Q := fun _ q => q.outcome.Underway 2 ∧ q.outcome.failedIn = none)
      (.onOutcome ?_) fun _ => .get_bind fun q hq =>
    .bind (Q := fun _ q => q.outcome.Underway 2 ∧ q.outcome.failedIn = none)
      (.onOutcome ?_) fun _ =>
    .bind (.onOutcome fun _ hq => ⟨hq.1.enter rfl, hq.2⟩) fun _ =>
    .bind (triple_executeFor p run b r clock _ _ _) (triple_finishWith a b)
  · rintro _ _ _ rfl
    exact ⟨1, hq.1⟩
  · rintro _ rfl
    exact ⟨hq.1.enter rfl, hq.2⟩
  · rintro _ rfl
    exact ⟨{ hq.1 with }, hq.2⟩

/-- However it archives, the outcome of an operation is one that has come to its end. -/
theorem lawful_operateWith (a : Archiver) (p : Project) (run : Runner ρ) (r : OperationRequest)
    (clock : Clock) (cache : BuildCache) (session : Session ρ) :
    (operateWith a p run r clock cache session).outcome.Lawful := by
  have hend := triple_stagesWith a p run r clock ⟨session, cache, {}⟩ ⟨.start, rfl⟩
  unfold operateWith
  rcases hrun : (stagesWith a p run r clock).run ⟨session, cache, {}⟩ with ⟨e | u, q⟩ <;>
    rw [hrun] at hend
  · obtain ⟨n, hunderway⟩ := hend
    exact hunderway.fail e
  · exact hend

/-! ## Ways of archiving -/

/-- **Steps that agree** but for what comes of archiving. -/
def Agree {α : Type} (x x' : OperationStep ρ α) : Prop :=
  ∀ q, (x.run q).1 = (x'.run q).1 ∧ (x.run q).2.unarchived = (x'.run q).2.unarchived

theorem Agree.bind {α β : Type} (x : OperationStep ρ α) {f f' : α → OperationStep ρ β}
    (h : ∀ a, Agree (f a) (f' a)) : Agree (x >>= f) (x >>= f') := by
  intro q
  rw [run_bind, run_bind]
  rcases x.run q with ⟨e | a, q'⟩
  · exact ⟨rfl, rfl⟩
  · exact h a q'

/-- Archiving enters its state, whatever else comes of it. -/
theorem exists_archiveWith (a : Archiver) (succeeded : Bool) (e : Execution) (q : Progress ρ) :
    ∃ q', (archiveWith a succeeded e).run q = (.ok (), q') ∧
      q'.unarchived = { q with outcome := q.outcome.enter .archiving }.unarchived := by
  unfold archiveWith enter
  rw [run_bind_of_ok (run_onOutcome _ _)]
  cases e.run with
  | none => exact ⟨_, rfl, rfl⟩
  | some one =>
    refine ⟨_, rfl, ?_⟩
    dsimp only
    rcases a succeeded one q.session.files with ⟨bundle | error, files⟩ <;> rfl

/-- However outputs are archived, the operation ends in the same way behind it. -/
theorem agree_archiveWith (a a' : Archiver) (succeeded : Bool) (e : Execution) (err : BuildError) :
    Agree (ρ := ρ) (archiveWith a succeeded e >>= fun _ =>
        if succeeded then onOutcome .succeed else throw err)
      (archiveWith a' succeeded e >>= fun _ =>
        if succeeded then onOutcome .succeed else throw err) := by
  intro q
  obtain ⟨q₁, hrun₁, hq₁⟩ := exists_archiveWith a succeeded e q
  obtain ⟨q₂, hrun₂, hq₂⟩ := exists_archiveWith a' succeeded e q
  have hq : q₁.unarchived = q₂.unarchived := hq₁.trans hq₂.symm
  rw [run_bind_of_ok hrun₁, run_bind_of_ok hrun₂]
  cases succeeded with
  | true => exact ⟨rfl, congrArg (fun x => (x.1, x.2.1.succeed, x.2.2)) hq⟩
  | false => exact ⟨rfl, hq⟩

/-- Operations that archive in two ways agree in their stages. -/
theorem agree_stagesWith (a a' : Archiver) (p : Project) (run : Runner ρ) (r : OperationRequest)
    (clock : Clock) : Agree (stagesWith a p run r clock) (stagesWith a' p run r clock) := by
  refine .bind _ fun b => .bind _ fun _ => .bind _ fun _ => .bind _ fun x => .bind _ fun _ =>
    .bind _ fun _ => .bind _ fun _ => .bind _ fun _ => .bind _ fun e => .bind _ fun succeeded => ?_
  exact agree_archiveWith a a' succeeded e _

/-- **Nothing but the bundle, its error and the files depends on how an operation archives.** -/
theorem unarchived_operateWith (a a' : Archiver) (p : Project) (run : Runner ρ)
    (r : OperationRequest) (clock : Clock) (cache : BuildCache) (session : Session ρ) :
    (operateWith a p run r clock cache session).unarchived =
      (operateWith a' p run r clock cache session).unarchived := by
  have hagree := agree_stagesWith a a' p run r clock ⟨session, cache, {}⟩
  unfold operateWith
  rcases hrun : (stagesWith a p run r clock).run ⟨session, cache, {}⟩ with ⟨answer, q⟩
  rcases hrun' : (stagesWith a' p run r clock).run ⟨session, cache, {}⟩ with ⟨answer', q'⟩
  rw [hrun, hrun'] at hagree
  obtain ⟨rfl, hview⟩ := hagree
  cases answer with
  | error e => exact congrArg (fun x => (x.1, x.2.1.fail e, x.2.2)) hview
  | ok u => exact hview

/-- **Every operation comes to its end in order**, whichever of its exits it takes and however its
outputs are archived, and all but the bundle, its error and the files is the same however they are
archived: whether it has succeeded, its error, the files compiled and skipped, the messages and the
cache. -/
theorem lawful_operate (p : Project) (run : Runner ρ) (r : OperationRequest) (clock : Clock)
    (cache : BuildCache) (session : Session ρ) :
    (p.operate run r clock cache session).outcome.Lawful ∧
      ∀ a, (operateWith a p run r clock cache session).outcome.Lawful ∧
        (operateWith a p run r clock cache session).unarchived =
          (p.operate run r clock cache session).unarchived := by
  rw [← operateWith_archiver]
  exact ⟨lawful_operateWith _ p run r clock cache session, fun a =>
    ⟨lawful_operateWith a p run r clock cache session,
      unarchived_operateWith a _ p run r clock cache session⟩⟩

end Project

end RtlFlow
