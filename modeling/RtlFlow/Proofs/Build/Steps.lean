import RtlFlow.Build.Operation

/-! # Steps of an operation

A step of an operation answers with a result or an error and leaves a progress in both cases.
What a step leaves alone is said with `Keeps`, about a view of the progress, and in which errors it
may end with `FailsOnly`; a step made of steps keeps what all of them keep, and ends in the errors
in which they end. What a step comes to from where it begins is said with `Triple`. -/

namespace RtlFlow

namespace OperationStep

variable {ρ α β γ : Type}

/-! ## Runs of steps -/

@[simp] theorem run_pure (x : α) (q : Progress ρ) :
    (pure x : OperationStep ρ α).run q = (.ok x, q) := rfl

@[simp] theorem run_throw (e : BuildError) (q : Progress ρ) :
    (throw e : OperationStep ρ α).run q = (.error e, q) := rfl

@[simp] theorem run_ofResult (r : Except BuildError α) (q : Progress ρ) :
    (ofResult r : OperationStep ρ α).run q = (r, q) := rfl

@[simp] theorem run_onOutcome (f : OperationOutcome → OperationOutcome) (q : Progress ρ) :
    (onOutcome f : OperationStep ρ Unit).run q = (.ok (), { q with outcome := f q.outcome }) := rfl

@[simp] theorem run_onCache (f : BuildCache → StateM FileTree (BuildCache × Option CacheError))
    (q : Progress ρ) :
    (onCache f).run q = (.ok (), { q with
      cache := (f q.cache q.session.files).1.1
      session := { q.session with files := (f q.cache q.session.files).2 } }) := rfl

/-- **A step behind another one** runs on what that one leaves, unless that ends in an error. -/
theorem run_bind (a : OperationStep ρ α) (f : α → OperationStep ρ β) (q : Progress ρ) :
    (a >>= f).run q =
      match a.run q with
      | (.ok x, q') => (f x).run q'
      | (.error e, q') => (.error e, q') := by
  unfold ExceptT.run
  simp only [bind, ExceptT.bind, ExceptT.mk, StateT.bind, ExceptT.bindCont]
  cases a q with
  | mk reply q' => cases reply <;> rfl

theorem run_get (q : Progress ρ) : (get : OperationStep ρ (Progress ρ)).run q = (.ok q, q) := rfl

theorem run_stopIfCancelled (b : Backend) (q : Progress ρ) :
    (stopIfCancelled b : OperationStep ρ Unit).run q =
      if q.session.cancelled then (.error (.tool (.cancelled b.executable)), q)
      else (.ok (), q) := by
  unfold stopIfCancelled
  rw [run_bind, run_get]
  cases h : q.session.cancelled <;> simp [h]

/-- A step behind one that answers. -/
theorem run_bind_of_ok {a : OperationStep ρ α} {f : α → OperationStep ρ β} {q q' : Progress ρ}
    {x : α} (h : a.run q = (.ok x, q')) : (a >>= f).run q = (f x).run q' := by
  rw [run_bind, h]

/-- A step behind one that ends in an error. -/
theorem run_bind_of_error {a : OperationStep ρ α} {f : α → OperationStep ρ β} {q q' : Progress ρ}
    {e : BuildError} (h : a.run q = (.error e, q')) : (a >>= f).run q = (.error e, q') := by
  rw [run_bind, h]

/-! ## What steps keep -/

/-- **A step that keeps a view** of the progress, whatever it answers. -/
def Keeps (view : Progress ρ → γ) (a : OperationStep ρ α) : Prop :=
  ∀ q, view (a.run q).2 = view q

variable {view : Progress ρ → γ}

theorem Keeps.pure (x : α) : Keeps view (Pure.pure x) := fun _ => rfl

theorem Keeps.throw (e : BuildError) : Keeps view (MonadExcept.throw e : OperationStep ρ α) :=
  fun _ => rfl

/-- Behind a step, steps that keep a view leave it as the step has left it. -/
theorem view_run_bind {a : OperationStep ρ α} {f : α → OperationStep ρ β}
    (hf : ∀ x, Keeps view (f x)) (q : Progress ρ) :
    view ((a >>= f).run q).2 = view (a.run q).2 := by
  rw [run_bind]
  rcases a.run q with ⟨e | x, q'⟩
  · rfl
  · exact hf x q'

theorem Keeps.bind {a : OperationStep ρ α} {f : α → OperationStep ρ β} (ha : Keeps view a)
    (hf : ∀ x, Keeps view (f x)) : Keeps view (a >>= f) := fun q =>
  (view_run_bind hf q).trans (ha q)

/-- A run of a tool keeps what does not look at the session. -/
theorem Keeps.ofRun (hview : ∀ q s, view { q with session := s } = view q)
    (a : SessionAction ρ ToolError α) : Keeps view (OperationStep.ofRun a) :=
  fun q => hview q _

theorem Keeps.onOutcome {f : OperationOutcome → OperationOutcome}
    (hview : ∀ q, view { q with outcome := f q.outcome } = view q) :
    Keeps view (OperationStep.onOutcome f : OperationStep ρ Unit) :=
  fun q => hview q

theorem Keeps.modify {f : Progress ρ → Progress ρ} (hview : ∀ q, view (f q) = view q) :
    Keeps view (modifyThe (Progress ρ) f : OperationStep ρ Unit) :=
  fun q => hview q

/-- A change of the cache keeps what looks neither at the cache nor at the files. -/
theorem Keeps.onCache (f : BuildCache → StateM FileTree (BuildCache × Option CacheError))
    (hview : ∀ q cache files,
      view { q with cache := cache, session := { q.session with files := files } } = view q) :
    Keeps view (OperationStep.onCache f : OperationStep ρ Unit) :=
  fun q => hview q _ _

/-- The question whether to go on changes nothing. -/
theorem keeps_stopIfCancelled (b : Backend) :
    Keeps view (stopIfCancelled b : OperationStep ρ Unit) := by
  intro q
  rw [run_stopIfCancelled]
  split <;> rfl

/-! ## Which errors steps end with -/

/-- **A step that ends in no error** but those of which `P` holds. -/
def FailsOnly (P : BuildError → Prop) (a : OperationStep ρ α) : Prop :=
  ∀ q e, (a.run q).1 = .error e → P e

variable {P : BuildError → Prop}

theorem FailsOnly.pure (x : α) : FailsOnly P (Pure.pure x : OperationStep ρ α) := by
  rintro q e ⟨⟩

theorem FailsOnly.throw {e : BuildError} (h : P e) :
    FailsOnly P (MonadExcept.throw e : OperationStep ρ α) := by
  rintro q _ ⟨⟩
  exact h

theorem FailsOnly.onOutcome (f : OperationOutcome → OperationOutcome) :
    FailsOnly P (OperationStep.onOutcome f : OperationStep ρ Unit) := by
  rintro q e ⟨⟩

theorem FailsOnly.modify (f : Progress ρ → Progress ρ) :
    FailsOnly P (modifyThe (Progress ρ) f : OperationStep ρ Unit) := by
  rintro q e ⟨⟩

theorem FailsOnly.bind {a : OperationStep ρ α} {f : α → OperationStep ρ β} (ha : FailsOnly P a)
    (hf : ∀ x, FailsOnly P (f x)) : FailsOnly P (a >>= f) := by
  intro q e h
  rw [run_bind] at h
  rcases hrun : a.run q with ⟨e' | x, q'⟩ <;> rw [hrun] at h
  · cases h
    exact ha q e (by rw [hrun])
  · exact hf x q' e h

/-! ## What steps come to -/

/-- **A step begun where `P` holds**: it answers where `Q` holds of the answer, or ends in an error
where `E` holds of the error. -/
def Triple (P : Progress ρ → Prop) (a : OperationStep ρ α) (Q : α → Progress ρ → Prop)
    (E : BuildError → Progress ρ → Prop) : Prop :=
  ∀ q, P q → match a.run q with
    | (.ok x, q') => Q x q'
    | (.error e, q') => E e q'

section Triple

variable {P : Progress ρ → Prop} {Q : α → Progress ρ → Prop} {R : β → Progress ρ → Prop}
  {E : BuildError → Progress ρ → Prop}

theorem Triple.pure {x : α} (h : ∀ q, P q → Q x q) :
    Triple P (Pure.pure x : OperationStep ρ α) Q E := h

theorem Triple.throw {e : BuildError} (h : ∀ q, P q → E e q) :
    Triple P (MonadExcept.throw e : OperationStep ρ α) Q E := h

theorem Triple.onOutcome {f : OperationOutcome → OperationOutcome}
    {Q : Unit → Progress ρ → Prop} (h : ∀ q, P q → Q () { q with outcome := f q.outcome }) :
    Triple P (OperationStep.onOutcome f : OperationStep ρ Unit) Q E := h

theorem Triple.modify {f : Progress ρ → Progress ρ} {Q : Unit → Progress ρ → Prop}
    (h : ∀ q, P q → Q () (f q)) :
    Triple P (modifyThe (Progress ρ) f : OperationStep ρ Unit) Q E := h

theorem Triple.onCache {f : BuildCache → StateM FileTree (BuildCache × Option CacheError)}
    {Q : Unit → Progress ρ → Prop}
    (h : ∀ q, P q → Q () { q with
      cache := (f q.cache q.session.files).1.1
      session := { q.session with files := (f q.cache q.session.files).2 } }) :
    Triple P (OperationStep.onCache f : OperationStep ρ Unit) Q E := h

/-- An answer that depends on nothing is one, or it ends the operation. -/
theorem Triple.ofResult {x : Except BuildError α} (hok : ∀ a, x = .ok a → ∀ q, P q → Q a q)
    (herror : ∀ e, x = .error e → ∀ q, P q → E e q) :
    Triple P (OperationStep.ofResult x : OperationStep ρ α) Q E := by
  intro q hq
  cases x with
  | ok a => exact hok a rfl q hq
  | error e => exact herror e rfl q hq

theorem Triple.bind {a : OperationStep ρ α} {f : α → OperationStep ρ β} (ha : Triple P a Q E)
    (hf : ∀ x, Triple (Q x) (f x) R E) : Triple P (a >>= f) R E := by
  intro q hq
  have hfirst := ha q hq
  rw [run_bind]
  rcases hrun : a.run q with ⟨e | x, q'⟩ <;> rw [hrun] at hfirst
  · exact hfirst
  · exact hf x q' hfirst

/-- A step that looks at the progress goes on from the progress that it has seen. -/
theorem Triple.get_bind {f : Progress ρ → OperationStep ρ β}
    (h : ∀ q, P q → Triple (· = q) (f q) R E) : Triple P (get >>= f) R E := by
  intro q hq
  rw [run_bind_of_ok (run_get q)]
  exact h q hq q rfl

/-- What holds where a step ends may be more than is asked for. -/
theorem Triple.mono {a : OperationStep ρ α} {S : α → Progress ρ → Prop}
    {F : BuildError → Progress ρ → Prop} (h : Triple P a Q E) (hQ : ∀ x q, Q x q → S x q)
    (hE : ∀ e q, E e q → F e q) : Triple P a S F := by
  intro q hq
  have hend := h q hq
  rcases hrun : a.run q with ⟨e | x, q'⟩ <;> rw [hrun] at hend
  · exact hE e q' hend
  · exact hQ x q' hend

/-- A step may be looked at from every single progress with which it begins. -/
theorem Triple.of_start {a : OperationStep ρ α} (h : ∀ q, P q → Triple (· = q) a Q E) :
    Triple P a Q E := fun q hq => h q hq q rfl

/-- A step that keeps a view keeps what can be told from it. -/
theorem Keeps.triple {a : OperationStep ρ α} (ha : Keeps view a) {I : γ → Prop}
    (hP : ∀ q, P q → I (view q)) (hQ : ∀ x q, I (view q) → Q x q)
    (hE : ∀ e q, I (view q) → E e q) : Triple P a Q E := by
  intro q hq
  have hview := ha q
  rcases hrun : a.run q with ⟨e | x, q'⟩ <;> rw [hrun] at hview
  · exact hE e q' (hview ▸ hP q hq)
  · exact hQ x q' (hview ▸ hP q hq)

end Triple

end OperationStep

end RtlFlow
