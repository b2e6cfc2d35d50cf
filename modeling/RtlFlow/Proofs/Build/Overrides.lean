import RtlFlow.Proofs.Build.StructuralErrors

/-! # Overrides that a backend takes

Generics are given by the project, by the request and for each file. Those of the project and of the
request are checked before a tool is run, and those of a file when the file is compiled, so a file
that was compiled has none that the backend does not take (`Project.takesAll_of_passed`). The run of
a target is handed files all the same that were not compiled: files that were skipped, and all of
them when the backend does not compile. Nothing checks the generics of these
(`Project.not_forall_overrides_taken`). -/

namespace RtlFlow

open OperationStep

namespace Backend

variable {b : Backend}

/-- **Whether a backend takes generics**: it takes the kind of each. -/
def TakesAll (b : Backend) (g : Generics) : Prop :=
  ∀ x ∈ g.entries, b.capabilities.takes x.2.kind = true

theorem checkGenerics_eq_ok_iff {g : Generics} : b.checkGenerics g = .ok () ↔ b.TakesAll g := by
  unfold checkGenerics TakesAll
  split
  next name v hfind =>
    have hnot := List.find?_some hfind
    have hmem := List.mem_of_find?_eq_some hfind
    refine iff_of_false (by simp) fun hall => ?_
    simp [hall (name, v) hmem] at hnot
  next hfind =>
    rw [List.find?_eq_none] at hfind
    simpa using hfind

/-- There is an invocation for a file only when the backend takes the generics of the file. -/
theorem takesAll_of_prepareCompile {q : CompileRequest} {i : Invocation}
    (h : b.prepareCompile q = .ok i) : b.TakesAll q.file.generics := by
  rw [← checkGenerics_eq_ok_iff]
  unfold prepareCompile at h
  cases hready : b.ensureReady .compile with
  | error e => simp [hready, bind, Except.bind] at h
  | ok u =>
    cases hgenerics : b.checkGenerics q.file.generics with
    | error e => simp [hready, hgenerics, bind, Except.bind] at h
    | ok u => rfl

end Backend

/-- **The files that are handed to the run of a target.** -/
def BuildPlan.handedOver (plan : BuildPlan) (o : Operation) : List SourceFile :=
  if o = .synthesize then plan.files.filter (·.synthesize) else plan.files

namespace Project

variable {ρ : Type} {p : Project} {run : Runner ρ} {b : Backend} {r : OperationRequest}
  {clock : Clock} {cache : BuildCache} {session : Session ρ} {ph : Phase}

/-! ## Files that were compiled -/

/-- A file for which there is no invocation is not compiled. -/
theorem not_passed_of_error {f : PlannedFile} {e : ToolError}
    (h : p.compileCall b r f.file = .error e) (q : Progress ρ) :
    (p.attemptOf b r f ((p.compileOne run b r clock f).run q).1).ending.isPassed = false := by
  cases hq : q.session.cancelled with
  | false =>
    rw [run_compileOne_of_error h hq]
    rfl
  | true =>
    have hstop : (p.compileOne run b r clock f).run q =
        (.error (.tool (.cancelled b.executable)), q) :=
      run_bind_of_error (by rw [run_stopIfCancelled, hq, if_pos rfl])
    rw [hstop]
    rfl

/-- **A file that was compiled** has only generics that the backend takes. -/
theorem takesAll_of_passed {files : List PlannedFile} {q : Progress ρ} :
    ∀ a ∈ p.attempts run b r clock files q, a.ending.isPassed = true →
      b.TakesAll a.file.file.generics := by
  induction files generalizing q with
  | nil => simp [attempts]
  | cons f files ih =>
    intro a ha hpassed
    rw [attempts_cons] at ha
    rcases List.mem_cons.mp ha with rfl | ha
    · cases hcall : p.compileCall b r f.file with
      | error e => simp [not_passed_of_error hcall] at hpassed
      | ok i =>
        unfold compileCall at hcall
        cases hmade : b.prepareCompile ⟨f.file, p.options.workDir r.kind, p.includesFor b r⟩ with
        | error e => simp [hmade, Except.map] at hcall
        | ok i' => exact Backend.takesAll_of_prepareCompile hmade
    · split at ha
      · exact ih a ha hpassed
      · simp at ha

/-! ## Files that are handed over -/

/-- A backend that compiles decides on all files that are handed over. -/
theorem map_file_entries_of_phase {c : CacheContent} {t : FileTree} (h : p.phase r c t = .ok ph)
    (hsupports : ph.backend.capabilities.supports .compile = true) :
    ph.filtered.entries.map (·.file) = ph.plan.handedOver r.kind := by
  rw [(phase_eq_ok h).2.2, filterFor, if_pos hsupports]
  have hfiles : (c.filter ph.plan ph.backend.name (fun f => (t.fingerprint f).toOption)
      (libraryPresent ph.backend (p.options.workDir r.kind) t)).entries.map (·.file) =
        ph.plan.files :=
    CacheContent.map_file_decideAll false 0 ph.plan.files
  dsimp only
  unfold BuildPlan.handedOver
  split_ifs with hkind
  · rw [← hfiles, List.filter_map]
    rfl
  · exact hfiles

/-- A file that is handed over is compiled or skipped, or else the backend does not compile. -/
theorem handedOver_cases {c : CacheContent} {t : FileTree} (h : p.phase r c t = .ok ph)
    {f : SourceFile} (hf : f ∈ ph.plan.handedOver r.kind) :
    f ∈ ph.filtered.toBuild.map (·.file) ∨ f ∈ ph.filtered.skipped.map (·.file) ∨
      ph.backend.capabilities.supports .compile = false := by
  cases hsupports : ph.backend.capabilities.supports .compile with
  | false => exact Or.inr (Or.inr rfl)
  | true =>
    rw [← map_file_entries_of_phase h hsupports] at hf
    obtain ⟨x, hx, rfl⟩ := List.mem_map.mp hf
    cases hbuild : x.action.isBuild with
    | true => exact Or.inl (List.mem_map_of_mem (List.mem_filter.mpr ⟨hx, hbuild⟩))
    | false =>
      exact Or.inr (Or.inl (List.mem_map_of_mem (List.mem_filter.mpr ⟨hx, by simp [hbuild]⟩)))

/-! ## Operations that succeed -/

/-- **Overrides behind a success.** A simulation or a synthesis that succeeds has no generic of the
project or of the request that its backend does not take, and none of a file that it has compiled.
A file that is handed to the run of the target may have some, but then it was skipped, or the
backend does not compile. -/
theorem overrides_taken (run : Runner ρ) (clock : Clock) (hkind : r.kind ≠ .compile)
    (hsucceeded : (p.operate run r clock cache session).outcome.succeeded = true) :
    ∃ ph, p.phase r cache.content session.files = .ok ph ∧
      ph.backend.TakesAll (p.genericsOf r) ∧
      (p.operate run r clock cache session).outcome.compiled =
        ph.filtered.toBuild.map (·.file.path) ∧
      (∀ x ∈ ph.filtered.toBuild, ph.backend.TakesAll x.file.generics) ∧
      ∀ f ∈ ph.plan.handedOver r.kind, ph.backend.TakesAll f.generics ∨
        f.path ∈ (p.operate run r clock cache session).outcome.skipped ∨
        ph.backend.capabilities.supports .compile = false := by
  cases hphase : p.phase r cache.content session.files with
  | error e =>
    obtain ⟨name, ho⟩ := operate_of_error run clock hphase
    simp [ho, OperationOutcome.fail, OperationOutcome.enter] at hsucceeded
  | ok ph =>
    obtain ⟨hfiles, hpassed⟩ := attempts_of_succeeded run clock hphase hsucceeded
    have htaken : ∀ x ∈ ph.filtered.toBuild, ph.backend.TakesAll x.file.generics := by
      intro x hx
      rw [← hfiles] at hx
      obtain ⟨a, ha, rfl⟩ := List.mem_map.mp hx
      have hone := hpassed a ha
      rw [attemptsOf_eq run clock hphase] at ha
      exact takesAll_of_passed a ha hone
    refine ⟨ph, rfl, ?_, ?_, htaken, fun f hf => ?_⟩
    · -- these are checked before anything is run
      exact Backend.checkGenerics_eq_ok_iff.mp ((checked_of_phase hphase).generics hkind)
    · rw [compiled_operate, Attempt.flatMap_credited_of_passed hpassed, ← hfiles, List.map_map]
      rfl
    · rcases handedOver_cases hphase hf with hbuilt | hskipped | hsupports
      · obtain ⟨x, hx, rfl⟩ := List.mem_map.mp hbuilt
        exact Or.inl (htaken x hx)
      · right
        left
        rw [skipped_operate run clock hphase]
        obtain ⟨x, hx, rfl⟩ := List.mem_map.mp hskipped
        exact List.mem_map_of_mem hx
      · exact Or.inr (Or.inr hsupports)

/-! ## A project with a generic of a file -/

/-- A backend with other capabilities. -/
def steadyWith (capabilities : Capabilities) : Backend := { steadyBackend "sim" with capabilities }

/-- A project of two files, the second one with a generic. -/
def wideWith (capabilities : Capabilities) : Project :=
  { wide with registry := BackendRegistry.register {} (steadyWith capabilities) }

/-- A simulation with some generics. -/
def simulationWith (generics : Generics) : OperationRequest :=
  ⟨.simulate, some "work.top", none, { generics }⟩

/-- The phase of a simulation of that project. -/
def widePhase (capabilities : Capabilities) (c : CacheContent) : Phase where
  backend := steadyWith capabilities
  target := some ⟨"work", "top"⟩
  plan := ⟨[⟨"work", wide.catalog.files⟩]⟩
  filtered := (wideWith capabilities).filterFor (steadyWith capabilities) .simulate
    ⟨[⟨"work", wide.catalog.files⟩]⟩ c pairFiles

/-- The capabilities of a backend that does everything and takes integers. -/
def integersTaken : Capabilities := ⟨Operation.all, [], [.integer], true⟩

/-- A backend that takes integers takes the generics of the request and of all files. -/
theorem overrides_taken_wide :
    (steadyWith integersTaken).TakesAll ⟨[("depth", .integer 4)]⟩ ∧
      ∀ f ∈ wide.catalog.files, (steadyWith integersTaken).TakesAll f.generics := by
  have hsucceeded : ((wideWith integersTaken).operate codeRunner
      (simulationWith ⟨[("depth", .integer 4)]⟩) ⟨⟨"now"⟩, "now"⟩ .inMemory
      (pairSession [])).outcome.succeeded = true := by decide +kernel
  have hskipped : ((wideWith integersTaken).operate codeRunner
      (simulationWith ⟨[("depth", .integer 4)]⟩) ⟨⟨"now"⟩, "now"⟩ .inMemory
      (pairSession [])).outcome.skipped = [] := by decide +kernel
  obtain ⟨ph, hphase, hrequest, -, -, hfiles⟩ :=
    overrides_taken codeRunner ⟨⟨"now"⟩, "now"⟩ (by decide) hsucceeded
  have hwide : (wideWith integersTaken).phase (simulationWith ⟨[("depth", .integer 4)]⟩)
      BuildCache.inMemory.content (pairSession []).files = .ok (widePhase integersTaken {}) := rfl
  obtain rfl := Except.ok.inj (hwide.symm.trans hphase)
  refine ⟨hrequest, fun f hf => ?_⟩
  rcases hfiles f hf with htaken | hskip | hsupports
  · exact htaken
  · simp [hskipped] at hskip
  · cases hsupports

/-- **Files with generics that are not taken are never handed to the run of a target**, by backends
that compile or by those that do not. -/
def AlwaysTaken (compiles : Bool) : Prop :=
  ∀ (ρ : Type) (p : Project) (run : Runner ρ) (r : OperationRequest) (clock : Clock)
    (cache : BuildCache) (session : Session ρ) (ph : Phase), p.catalog.Registered →
      r.kind ≠ .compile → p.phase r cache.content session.files = .ok ph →
        ph.backend.capabilities.supports .compile = compiles →
          (p.operate run r clock cache session).outcome.succeeded = true →
            ∀ f ∈ ph.plan.handedOver r.kind, ph.backend.TakesAll f.generics

theorem registered_wideWith (capabilities : Capabilities) :
    (wideWith capabilities).catalog.Registered :=
  .register (.register (.empty ⟨"/p"⟩) ⟨"a.v"⟩ "work" {} rfl) ⟨"b.v"⟩ "work"
    { generics := ⟨[("width", .integer 8)]⟩ } rfl

/-- **Generics that are not taken are ignored** by a backend that does not compile, and by one that
skips the file since it was compiled without them. -/
theorem not_forall_overrides_taken : ¬ AlwaysTaken false ∧ ¬ AlwaysTaken true := by
  have hwidth : ∀ capabilities : Capabilities, capabilities.takes .integer = false →
      ¬ ∀ f ∈ wide.catalog.files, (steadyWith capabilities).TakesAll f.generics := by
    intro capabilities hnot hall
    have htaken := hall ⟨⟨"/p/b.v"⟩, "work", .verilog, true, ⟨[("width", .integer 8)]⟩, [], []⟩
      (by simp [wide]) ("width", .integer 8) (by simp)
    exact absurd (hnot.symm.trans htaken) (by simp)
  refine ⟨fun h => ?_, fun h => ?_⟩
  · have hsucceeded : ((wideWith ⟨[.simulate], [], [], false⟩).operate codeRunner
        (simulationWith .empty) ⟨⟨"now"⟩, "now"⟩ .inMemory (pairSession [])).outcome.succeeded =
          true := by decide +kernel
    exact hwidth _ rfl (h _ _ codeRunner (simulationWith .empty) _ .inMemory (pairSession [])
      (widePhase ⟨[.simulate], [], [], false⟩ {}) (registered_wideWith _) (by decide) rfl rfl
      hsucceeded)
  · -- both files were compiled when the second one had no generic yet
    obtain ⟨cache, hcache, hsucceeded⟩ : ∃ cache, cache = (runPair .inMemory [0, 0]).cache ∧
        ((wideWith ⟨Operation.all, [], [], false⟩).operate codeRunner (simulationWith .empty)
          ⟨⟨"now"⟩, "now"⟩ cache (pairSession [])).outcome.succeeded = true :=
      ⟨_, rfl, by decide +kernel⟩
    exact hwidth _ rfl (h _ _ codeRunner (simulationWith .empty) _ cache (pairSession [])
      (widePhase ⟨Operation.all, [], [], false⟩ cache.content) (registered_wideWith _) (by decide)
      rfl rfl hsucceeded)

end Project

end RtlFlow
