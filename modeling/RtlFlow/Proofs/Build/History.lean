import RtlFlow.Proofs.Build.Credit

/-! # No stale credit

A history is made of compile phases of any projects, backends and plans, each stopped wherever it
was, and of moments at which the cache was cleared. What a plan then skips for a backend was last
compiled for it with the content that it has now, and the files before it in the plan were compiled
before it (`History.credit_of_skip`). -/

namespace RtlFlow

open CacheContent

/-- **A history of compile phases** with all attempts in the order in which they were made, and the
cache at its end. Nothing is said of what becomes of the files of the project between phases. -/
inductive History : List Attempt → CacheContent → Prop
  /-- Nothing has happened. -/
  | empty : History [] {}
  /-- The files that a plan of readable files sends to be compiled, or a part of them, are compiled
  by the loop until it stops. -/
  | phase {ρ : Type} {log : List Attempt} {c : CacheContent} (h : History log c) (p : Project)
      (run : Runner ρ) (b : Backend) (r : OperationRequest) (clock : Clock) (plan : BuildPlan)
      (fingerprint? : Path → Option String) (present : String → Bool) (files : List PlannedFile)
      (q : Progress ρ) (hcache : q.cache.content = c)
      (hread : ∀ f ∈ plan.files, (fingerprint? f.path).isSome)
      (hfiles : files.Sublist (c.filter plan b.name fingerprint? present).toBuild) :
      History (log ++ p.attempts run b r clock files q)
        ((p.compileAll run b r clock none files).run q).2.cache.content
  /-- The cache is cleared. -/
  | clear {log : List Attempt} {c : CacheContent} (h : History log c) (b : BuildCache)
      (t : FileTree) (hcache : b.content = c) : History log (b.clear t).1.1.content

/-- **The last success on a file**, at its place in a row of attempts. -/
structure LastPassed (log : List Attempt) (name : String) (path : Path) (i : Nat)
    (a : Attempt) : Prop where
  /-- The place. -/
  getElem : log[i]? = some a
  /-- It is an attempt on the file. -/
  isOn : a.IsOn name path
  /-- It was a success. -/
  passed : a.ending.isPassed = true
  /-- No later one was. -/
  last : ∀ j b, i < j → log[j]? = some b → b.IsOn name path → b.ending.isPassed = false

namespace History

variable {log : List Attempt} {c : CacheContent}

/-- The cache at the end of a history is the work of its attempts. -/
theorem earned (h : History log c) : Earned log c := by
  induction h with
  | empty => exact .empty
  | phase h p run b r clock plan fingerprint? present files q hcache hread hfiles ih =>
    rw [Project.content_compileAll, hcache]
    exact ih.foldl clock.now _
  | clear h b t hcache ih =>
    rw [BuildCache.content_clear]
    exact ih.clear

/-- Every file that was attempted had a fingerprint. -/
theorem fingerprint_isSome (h : History log c) : ∀ a ∈ log, a.file.fingerprint.isSome = true := by
  induction h with
  | empty => simp
  | phase h p run b r clock plan fingerprint? present files q hcache hread hfiles ih =>
    intro a ha
    rcases List.mem_append.mp ha with ha | ha
    · exact ih a ha
    · obtain ⟨hfile, hfingerprint⟩ :=
        mem_toBuild_filter (hfiles.subset (Project.mem_attempts ha).2.2)
      rw [hfingerprint]
      exact hread _ hfile
  | clear h b t hcache ih => exact ih

/-- Where every file had a fingerprint, the last attempt that was remembered is the last success. -/
theorem lastPassed_of_lastRemembered (h : History log c) {name : String} {path : Path} {i : Nat}
    {a : Attempt} (hi : LastRemembered log name path i a) : LastPassed log name path i a where
  getElem := hi.getElem
  isOn := hi.isOn
  passed := by
    have hremembered := hi.remembered
    simp only [Attempt.isRemembered, Bool.and_eq_true] at hremembered
    exact hremembered.1
  last j b hj hb hon := by
    have hfingerprint := h.fingerprint_isSome b (List.mem_of_getElem? hb)
    have hlast := hi.last j b hj hb hon
    simpa [Attempt.isRemembered, hfingerprint] using hlast

/-- **No stale credit**: a file that is skipped for a backend has the fingerprint with which it was
last compiled for it with success, and no compile of it has failed since. All files before it in the
plan are skipped, too, and the last success on each of them came before that on the file, as long
as the counter of generations, which has 64 bits, has not gone round. -/
theorem credit_of_skip (h : History log c) {plan : BuildPlan} {name : String}
    {fingerprint? : Path → Option String} {present : String → Bool}
    (hdistinct : plan.files.Pairwise fun f g => f.path.same g.path = false) {n : Nat}
    {x : PlannedFile} (hx : (c.filter plan name fingerprint? present).entries[n]? = some x)
    (hskip : x.action = .skip) :
    ∃ i a, LastPassed log name x.file.path i a ∧
      fingerprint? x.file.path = a.file.fingerprint ∧ a.file.fingerprint.isSome ∧
      (∀ j b, i < j → log[j]? = some b → b.IsOn name x.file.path → b.ending ≠ .failed) ∧
      ∀ m y, m < n → (c.filter plan name fingerprint? present).entries[m]? = some y →
        y.action = .skip ∧ ∃ j b, LastPassed log name y.file.path j b ∧
          (log.length < UInt64.size → j < i) := by
  obtain ⟨e, hclean, -, hbefore⟩ := filter_skip hx hskip
  obtain ⟨i, a, hi, hfingerprint⟩ := h.earned.exists_lastRemembered hclean.entry
  refine ⟨i, a, h.lastPassed_of_lastRemembered hi, hclean.current.trans hfingerprint.symm, ?_,
    hi.not_failed, fun m y hm hy => ?_⟩
  · rw [hfingerprint]
    rfl
  obtain ⟨hskip', e', hclean', hle⟩ := hbefore m y hm hy
  obtain ⟨j, b, hj, -⟩ := h.earned.exists_lastRemembered hclean'.entry
  refine ⟨hskip', j, b, h.lastPassed_of_lastRemembered hj, fun hroom => ?_⟩
  -- an attempt on the earlier file that came later would have given it the greater generation
  rcases lt_trichotomy j i with hlt | rfl | hlt
  · exact hlt
  · -- one attempt cannot be on two files of the plan
    obtain rfl := Option.some.inj (hi.getElem.symm.trans hj.getElem)
    have hsame : y.file.path.same x.file.path = true :=
      Path.same_iff.mpr (hj.isOn.2.symm.trans hi.isOn.2)
    obtain ⟨hm', hfile'⟩ := List.getElem?_eq_some_iff.mp (getElem?_files_of_filter hy)
    obtain ⟨hn', hfile⟩ := List.getElem?_eq_some_iff.mp (getElem?_files_of_filter hx)
    have hne := List.pairwise_iff_getElem.mp hdistinct m n hm' hn' hm
    rw [hfile', hfile, hsame] at hne
    simp at hne
  · have hgeneration := h.earned.generation_lt hroom hclean.entry hclean'.entry hi hj hlt
    exact absurd hgeneration (Nat.not_lt.mpr hle)

end History

/-! ## A history in which everything succeeds -/

/-- A backend that has one command for every file. -/
def steadyBackend (name : String) : Backend :=
  { Backend.bare name name none ⟨Operation.all, [], [], false⟩ true with
    compileInvocation := fun _ => .ok {}
    simulateInvocation := fun _ => .ok {}
    synthesizeInvocation := fun _ => .ok {} }

/-- A runner all of whose runs succeed. -/
def steadyRunner : Runner Unit := fun _ => pure ⟨.exited 0, "", "", ⟨0, 0⟩⟩

/-- A plan of two files. -/
def pairPlan : BuildPlan :=
  ⟨[⟨"work", [⟨⟨"/p/a.v"⟩, "work", .verilog, true, .empty, [], []⟩,
    ⟨⟨"/p/b.v"⟩, "work", .verilog, true, .empty, [], []⟩]⟩]⟩

/-- The cache behind the first compile of both. -/
def pairCache : CacheContent :=
  ⟨2, [("sim", [(⟨"/p/a.v"⟩, ⟨"/p/a.v", .passed, ⟨"now"⟩, 1⟩),
    (⟨"/p/b.v"⟩, ⟨"/p/b.v", .passed, ⟨"now"⟩, 2⟩)])]⟩

/-- A file that was compiled together with the one before it is skipped, and stands behind it. -/
theorem credit_of_skip_pairPlan :
    ∃ log x, History log pairCache ∧
      (pairCache.filter pairPlan "sim" (fun path => some path.text) fun _ => true).entries[1]? =
        some x ∧ x.action = .skip ∧ ∃ i a, LastPassed log "sim" x.file.path i a ∧
          a.file.fingerprint = some "/p/b.v" := by
  have hist : ∃ log, History log pairCache :=
    ⟨_, History.empty.phase ⟨.empty ⟨"/p"⟩, ⟨[]⟩, .ofRoot ⟨"/p"⟩⟩ steadyRunner
      (steadyBackend "sim") ⟨.compile, none, none, {}⟩ ⟨⟨"now"⟩, "now"⟩ pairPlan
      (fun path => some path.text) (fun _ => true) _ ⟨⟨⟨[], []⟩, false, ()⟩, .inMemory, {}⟩ rfl
      (by simp) (List.Sublist.refl _)⟩
  obtain ⟨log, hist⟩ := hist
  have hx : (pairCache.filter pairPlan "sim" (fun path => some path.text)
      fun _ => true).entries[1]? = some ⟨⟨⟨"/p/b.v"⟩, "work", .verilog, true, .empty, [], []⟩,
        .skip, some "/p/b.v"⟩ := rfl
  obtain ⟨i, a, hpassed, hfingerprint, -⟩ := hist.credit_of_skip (by decide +kernel) hx rfl
  exact ⟨log, _, hist, hx, rfl, i, a, hpassed, hfingerprint.symm⟩

end RtlFlow
