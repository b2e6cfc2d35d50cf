import RtlFlow.Proofs.Build.Steps
import RtlFlow.Proofs.Cache.Entries

/-! # The compile loop as a row of attempts

Every file that the loop comes to is one attempt, and how an attempt ends decides what becomes of
the cache and whether the loop goes on. `attempts` reads the row of attempts off a run of the loop,
and `credit_compileAll` shows that it accounts for all that the loop does to the cache and to the
lists of files in the outcome. -/

namespace RtlFlow

open OperationStep

/-- **How the attempt to compile a file ends.** -/
inductive Ending where
  /-- The tool did not start, or cancellation had been asked for. -/
  | notStarted
  /-- The tool was cancelled. -/
  | cancelled
  /-- The output is not that of a success. -/
  | failed
  /-- The file is compiled. -/
  | passed (outcome : BuildOutcome)
  deriving DecidableEq, Repr, Inhabited

/-- Whether an attempt was a success. -/
def Ending.isPassed : Ending → Bool
  | .passed _ => true
  | _ => false

/-- **An attempt to compile a file.** -/
structure Attempt where
  /-- The name of the backend. -/
  backend : String
  /-- The directory in which the tool worked. -/
  workDir : Path
  /-- The file, with the fingerprint that it had when the decision on it was made. -/
  file : PlannedFile
  /-- How it ended. -/
  ending : Ending
  deriving DecidableEq, Repr, Inhabited

namespace Attempt

/-- **What an attempt leaves in the cache**: a success is remembered when the file had a
fingerprint, and a failure makes the file forgotten. -/
def leave (now : Timestamp) (a : Attempt) (c : CacheContent) : CacheContent :=
  match a.ending, a.file.fingerprint with
  | .passed outcome, some fingerprint =>
    c.record a.backend a.file.file.path fingerprint outcome now
  | .failed, _ => c.forget a.backend a.file.file.path
  | _, _ => c

/-- The files that an attempt adds to those compiled. -/
def credited (a : Attempt) : List Path := if a.ending.isPassed then [a.file.file.path] else []

/-- Successes add their files. -/
theorem flatMap_credited_of_passed {as : List Attempt}
    (h : ∀ a ∈ as, a.ending.isPassed = true) : as.flatMap credited = as.map (·.file.file.path) := by
  rw [List.map_eq_flatMap]
  exact List.flatMap_congr fun a ha => if_pos (h a ha)

/-- Other attempts add no file. -/
theorem flatMap_credited_of_not_passed {as : List Attempt}
    (h : ∀ a ∈ as, a.ending.isPassed = false) : as.flatMap credited = [] :=
  List.flatMap_eq_nil_iff.mpr fun a ha => if_neg (by simp [h a ha])

end Attempt

/-- **What an operation has made of the files**: the content of the cache, and the files that were
compiled and skipped. -/
structure Credit where
  /-- The content of the cache. -/
  content : CacheContent
  /-- The files that were compiled with success. -/
  compiled : List Path
  /-- The files that were skipped. -/
  skipped : List Path
  deriving DecidableEq, Repr

/-- The credit of a progress. -/
def Progress.credit {ρ : Type} (q : Progress ρ) : Credit :=
  ⟨q.cache.content, q.outcome.compiled, q.outcome.skipped⟩

/-- The credit behind an attempt. -/
def Attempt.settle (now : Timestamp) (k : Credit) (a : Attempt) : Credit :=
  ⟨a.leave now k.content, k.compiled ++ a.credited, k.skipped⟩

namespace Project

variable {ρ : Type}

/-- How an attempt ends by the reply of the tool, if there is one. -/
def endingOf (b : Backend) : Except BuildError ToolRun → Ending
  | .error _ => .notStarted
  | .ok one =>
    if one.result.wasCancelled then .cancelled
    else
      let verdict := (b.classifier.classify one.result).verdict
      if verdict.isSuccess then .passed (outcomeOf verdict) else .failed

/-- An attempt of an operation by the reply of the tool. -/
def attemptOf (p : Project) (b : Backend) (r : OperationRequest) (f : PlannedFile)
    (reply : Except BuildError ToolRun) : Attempt :=
  ⟨b.name, p.options.workDir r.kind, f, endingOf b reply⟩

/-- **The attempts of a run of the loop.** The loop ends with the first one that is no success. -/
def attempts (p : Project) (run : Runner ρ) (b : Backend) (r : OperationRequest) (clock : Clock) :
    List PlannedFile → Progress ρ → List Attempt
  | [], _ => []
  | f :: rest, q =>
    let (reply, q') := (p.compileOne run b r clock f).run q
    let a := p.attemptOf b r f reply
    a :: if a.ending.isPassed then attempts p run b r clock rest q' else []

variable {p : Project} {run : Runner ρ} {b : Backend} {r : OperationRequest} {clock : Clock}

theorem isPassed_endingOf (one : ToolRun) :
    (endingOf b (.ok one)).isPassed = passes b one := by
  unfold endingOf passes
  simp only
  split_ifs with hcancelled hsuccess <;> simp [Ending.isPassed, *]

/-! ## One attempt -/

/-- An attempt that did not start leaves everything as it is. -/
@[simp] theorem settle_attemptOf_error (f : PlannedFile) (e : BuildError) (now : Timestamp)
    (k : Credit) : (p.attemptOf b r f (.error e)).settle now k = k := by
  simp [Attempt.settle, Attempt.leave, Attempt.credited, attemptOf, endingOf, Ending.isPassed]

/-- Settling is never the end of an operation. -/
theorem run_settle_fst (b : Backend) (clock : Clock) (f : PlannedFile) (one : ToolRun)
    (q : Progress ρ) :
    ((settle b clock f one).run q).1 = .ok () := by
  unfold settle
  cases hcancelled : one.result.wasCancelled
  · cases hsuccess : (b.classifier.classify one.result).verdict.isSuccess
    · simp [run_bind, hsuccess]
    · cases f.fingerprint <;> simp [run_bind, hsuccess]
  · simp

/-- What a compile has given is settled as the attempt that ends with it. -/
theorem credit_settle (f : PlannedFile) (one : ToolRun) (q : Progress ρ) :
    ((settle b clock f one).run q).2.credit =
      (p.attemptOf b r f (.ok one)).settle clock.now q.credit := by
  unfold settle Attempt.settle Attempt.leave Attempt.credited attemptOf endingOf Progress.credit
  cases hcancelled : one.result.wasCancelled
  · cases hsuccess : (b.classifier.classify one.result).verdict.isSuccess
    · simp [run_bind, hcancelled, hsuccess, BuildCache.content_forget, Ending.isPassed]
    · cases f.fingerprint
      · simp [run_bind, hcancelled, hsuccess, Ending.isPassed]
      · simp [run_bind, hcancelled, hsuccess, BuildCache.content_record, Ending.isPassed]
  · simp [hcancelled, Ending.isPassed]

/-- The run of the loop body for one file: the tool is not run, does not start, or its reply is
settled. -/
theorem run_compileOne_cases (p : Project) (run : Runner ρ) (b : Backend) (r : OperationRequest)
    (clock : Clock) (f : PlannedFile) (q : Progress ρ) :
    (∃ e q', (p.compileOne run b r clock f).run q = (.error e, q') ∧ q'.credit = q.credit) ∨
      ∃ one q', q'.credit = q.credit ∧
        (p.compileOne run b r clock f).run q = (.ok one, ((settle b clock f one).run q').2) := by
  unfold compileOne
  rw [run_bind, run_stopIfCancelled]
  cases q.session.cancelled
  · simp only [Bool.false_eq_true, if_false]
    rw [run_bind]
    have hkeep : ((p.runCompile run b r f.file).run q).2.credit = q.credit := rfl
    rcases hrun : (p.runCompile run b r f.file).run q with ⟨e | one, q'⟩
    · exact Or.inl ⟨e, q', rfl, by rw [← hkeep, hrun]⟩
    · refine Or.inr ⟨one, q', by rw [← hkeep, hrun], ?_⟩
      have hsettle := run_settle_fst b clock f one q'
      simp only [run_bind]
      rcases hnext : (settle b clock f one).run q' with ⟨e | u, q''⟩
      · simp [hnext] at hsettle
      · rfl
  · exact Or.inl ⟨_, q, rfl, rfl⟩

/-- **A file that the loop comes to is one attempt.** -/
theorem credit_compileOne (p : Project) (run : Runner ρ) (b : Backend) (r : OperationRequest)
    (clock : Clock) (f : PlannedFile) (q : Progress ρ) :
    ((p.compileOne run b r clock f).run q).2.credit =
      (p.attemptOf b r f ((p.compileOne run b r clock f).run q).1).settle clock.now q.credit := by
  rcases run_compileOne_cases p run b r clock f q with
    ⟨e, q', hrun, hcredit⟩ | ⟨one, q', hcredit, hrun⟩
  · rw [hrun, settle_attemptOf_error]
    exact hcredit
  · rw [hrun, ← hcredit]
    exact credit_settle f one q'

/-! ## The loop -/

/-- The first attempt, and the others if it is a success. -/
theorem attempts_cons (p : Project) (run : Runner ρ) (b : Backend) (r : OperationRequest)
    (clock : Clock) (f : PlannedFile) (files : List PlannedFile) (q : Progress ρ) :
    p.attempts run b r clock (f :: files) q =
      p.attemptOf b r f ((p.compileOne run b r clock f).run q).1 ::
        if (p.attemptOf b r f ((p.compileOne run b r clock f).run q).1).ending.isPassed then
          p.attempts run b r clock files ((p.compileOne run b r clock f).run q).2
        else [] := rfl

/-- **The loop does what its attempts do**, one after the other. -/
theorem credit_compileAll (p : Project) (run : Runner ρ) (b : Backend) (r : OperationRequest)
    (clock : Clock) (log : Option ToolRun) (files : List PlannedFile) (q : Progress ρ) :
    ((p.compileAll run b r clock log files).run q).2.credit =
      (p.attempts run b r clock files q).foldl (fun k a => a.settle clock.now k) q.credit := by
  induction files generalizing log q with
  | nil => rfl
  | cons f files ih =>
    have hone := credit_compileOne p run b r clock f q
    unfold compileAll
    rw [run_bind, attempts_cons]
    rcases hrun : (p.compileOne run b r clock f).run q with ⟨e | one, q'⟩
    · rw [hrun] at hone
      simpa [attemptOf, endingOf, Ending.isPassed] using hone
    · rw [hrun] at hone
      have hending : (p.attemptOf b r f (.ok one)).ending.isPassed = passes b one :=
        isPassed_endingOf one
      simp only [hending]
      cases passes b one
      · simpa using hone
      · simp only [if_true, List.foldl_cons]
        rw [ih, hone]

/-- The credit behind a row of attempts, part by part. -/
theorem foldl_settle (now : Timestamp) (as : List Attempt) (k : Credit) :
    as.foldl (fun k a => a.settle now k) k =
      ⟨as.foldl (fun c a => a.leave now c) k.content, k.compiled ++ as.flatMap Attempt.credited,
        k.skipped⟩ := by
  induction as generalizing k with
  | nil => simp
  | cons a as ih =>
    rw [List.foldl_cons, ih]
    simp [Attempt.settle]

/-- The cache behind the loop is the work of its attempts. -/
theorem content_compileAll (p : Project) (run : Runner ρ) (b : Backend) (r : OperationRequest)
    (clock : Clock) (log : Option ToolRun) (files : List PlannedFile) (q : Progress ρ) :
    ((p.compileAll run b r clock log files).run q).2.cache.content =
      (p.attempts run b r clock files q).foldl (fun c a => a.leave clock.now c)
        q.cache.content := by
  have hcredit := credit_compileAll p run b r clock log files q
  rw [foldl_settle] at hcredit
  exact congrArg Credit.content hcredit

/-- Every attempt of the loop is made by its backend in its directory, on one of its files. -/
theorem mem_attempts {files : List PlannedFile} {q : Progress ρ} {a : Attempt}
    (h : a ∈ p.attempts run b r clock files q) :
    a.backend = b.name ∧ a.workDir = p.options.workDir r.kind ∧ a.file ∈ files := by
  induction files generalizing q with
  | nil => simp [attempts] at h
  | cons f files ih =>
    rw [attempts_cons] at h
    rcases List.mem_cons.mp h with rfl | h
    · exact ⟨rfl, rfl, List.mem_cons_self ..⟩
    · split at h
      · obtain ⟨hbackend, hdir, hfile⟩ := ih h
        exact ⟨hbackend, hdir, List.mem_cons_of_mem _ hfile⟩
      · simp at h

/-- **The loop compiles the first files with success, and stops at the next one or at the end.** -/
theorem exists_attempts_eq (p : Project) (run : Runner ρ) (b : Backend) (r : OperationRequest)
    (clock : Clock) (files : List PlannedFile) (q : Progress ρ) :
    ∃ done stop : List Attempt, p.attempts run b r clock files q = done ++ stop ∧
      (∀ a ∈ done, a.ending.isPassed = true) ∧ (∀ a ∈ stop, a.ending.isPassed = false) ∧
      done.map (·.file) = files.take done.length ∧
      stop.map (·.file) = (files.drop done.length).take 1 := by
  induction files generalizing q with
  | nil => exact ⟨[], [], rfl, by simp, by simp, rfl, rfl⟩
  | cons f files ih =>
    rw [attempts_cons]
    rcases (p.compileOne run b r clock f).run q with ⟨reply, q'⟩
    have hfile : (p.attemptOf b r f reply).file = f := rfl
    cases hpassed : (p.attemptOf b r f reply).ending.isPassed
    · -- the loop stops here, with nothing done
      exact ⟨[], [p.attemptOf b r f reply], by simp, by simp, by simpa using hpassed, by simp,
        by simp [hfile]⟩
    · obtain ⟨done, stop, heq, hdone, hstop, htake, hdrop⟩ := ih q'
      exact ⟨p.attemptOf b r f reply :: done, stop, by simp [heq], by simpa using ⟨hpassed, hdone⟩,
        hstop, by simp [hfile, htake], by simpa using hdrop⟩

/-- The files of the attempts are the first files of the loop. -/
theorem attempts_first_files (p : Project) (run : Runner ρ) (b : Backend) (r : OperationRequest)
    (clock : Clock) (files : List PlannedFile) (q : Progress ρ) :
    (p.attempts run b r clock files q).map (·.file) <+: files := by
  obtain ⟨done, stop, heq, -, -, htake, hdrop⟩ := exists_attempts_eq p run b r clock files q
  rw [heq, List.map_append, htake, hdrop, ← List.take_add]
  exact List.take_prefix _ files

/-- **What the answer of the loop tells**: it has come to its end when every file was attempted and
has passed, and the execution with which it has stopped is that of a compile that did not
succeed. -/
theorem answer_compileAll (p : Project) (run : Runner ρ) (b : Backend) (r : OperationRequest)
    (clock : Clock) (log : Option ToolRun) (files : List PlannedFile) (q : Progress ρ) :
    match ((p.compileAll run b r clock log files).run q).1 with
    | .error _ => True
    | .ok (.inl e) => e.compileFailed = true
    | .ok (.inr _) => (p.attempts run b r clock files q).map (·.file) = files ∧
        ∀ a ∈ p.attempts run b r clock files q, a.ending.isPassed = true := by
  induction files generalizing log q with
  | nil => exact ⟨rfl, by simp [attempts]⟩
  | cons f files ih =>
    unfold compileAll
    rw [run_bind, attempts_cons]
    rcases (p.compileOne run b r clock f).run q with ⟨e | one, q'⟩
    · trivial
    · have hending : (p.attemptOf b r f (.ok one)).ending.isPassed = passes b one :=
        isPassed_endingOf one
      simp only [hending]
      cases hpasses : passes b one
      · rfl
      · simp only [if_true]
        have hrest := ih (some (ToolRun.after log one)) q'
        split at hrest
        · trivial
        · exact hrest
        · obtain ⟨hfiles, hpassed⟩ := hrest
          refine ⟨by rw [List.map_cons, hfiles]; rfl, fun a ha => ?_⟩
          rcases List.mem_cons.mp ha with rfl | ha
          · rw [hending, hpasses]
          · exact hpassed a ha

end Project

end RtlFlow
