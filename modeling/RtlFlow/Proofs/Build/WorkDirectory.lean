import RtlFlow.Proofs.Build.Resume

/-! # Where skipped files were compiled

The cache knows a compile by its backend and its file, and not by the directory in which the tool
has worked. A file that an operation skips was compiled in the directory of the operation that has
compiled it (`Operations.compiled_of_skipped`), which is another one than that of the operation when
one of them is a synthesis and the other is not (`not_forall_workDir_eq`). What stands for the
directory is the library, where the backend tells where it is: it is there in the directory of the
operation that skips the file. -/

namespace RtlFlow

open CacheContent Project

namespace Project

variable {ρ : Type} {p : Project} {run : Runner ρ} {r : OperationRequest} {clock : Clock}
  {cache : BuildCache} {session : Session ρ} {path : Path}

/-! ## The decisions of an operation -/

/-- Operations work in the same directory if both are syntheses or none is, or if there is only one
directory. -/
theorem workDir_eq {o : BuildOptions} {op op' : Operation}
    (h : (op = .synthesize ↔ op' = .synthesize) ∨ o.simulationDir = o.synthesisDir) :
    o.workDir op = o.workDir op' := by
  cases op <;> cases op' <;> simp_all [BuildOptions.workDir]

/-- A fingerprint that is there is the one of the file. -/
theorem fingerprint_eq_ok {t : FileTree} {path : Path} {fingerprint : String}
    (h : (t.fingerprint path).toOption = some fingerprint) :
    t.fingerprint path = .ok fingerprint := by
  cases hread : t.fingerprint path with
  | error e => simp [hread, Except.toOption] at h
  | ok found => simpa [hread, Except.toOption] using h

/-- The decisions of an operation are among those of its cache on its plan. -/
theorem filterFor_sublist (p : Project) (b : Backend) (o : Operation) (plan : BuildPlan)
    (c : CacheContent) (t : FileTree) :
    (p.filterFor b o plan c t).entries.Sublist
      (c.filter plan b.name (fun f => (t.fingerprint f).toOption)
        (libraryPresent b (p.options.workDir o) t)).entries := by
  unfold filterFor
  split
  · split
    · exact List.filter_sublist
    · exact List.Sublist.refl _
  · exact List.nil_sublist _

/-- A file with a decision is one of the plan. -/
theorem file_mem_plan {c : CacheContent} {t : FileTree} {ph : Phase} (h : p.phase r c t = .ok ph)
    {x : PlannedFile} (hx : x ∈ ph.filtered.entries) : x.file ∈ ph.plan.files := by
  rw [(phase_eq_ok h).2.2] at hx
  have hmem := List.mem_map_of_mem (f := PlannedFile.file) ((filterFor_sublist p ..).subset hx)
  rwa [CacheContent.filter, map_file_decideAll] at hmem

/-- The fingerprint of a decision is the one that the file has when the operation begins. -/
theorem fingerprint_of_mem_filtered {c : CacheContent} {t : FileTree} {ph : Phase}
    (h : p.phase r c t = .ok ph) {f : PlannedFile} (hf : f ∈ ph.filtered.toBuild) :
    f.fingerprint = (t.fingerprint f.file.path).toOption := by
  have hmem := List.mem_of_mem_filter hf
  rw [(phase_eq_ok h).2.2] at hmem
  exact fingerprint_of_mem_decideAll f ((filterFor_sublist p ..).subset hmem)

/-- **What an attempt of an operation has at hand**: the backend, the directory in which the
operation works, and the fingerprint that the file has when the operation begins. -/
theorem mem_attemptsOf {a : Attempt} (h : a ∈ p.attemptsOf run r clock cache session) :
    ∃ b, p.selectBackend r = .ok b ∧ a.backend = b.name ∧
      a.workDir = p.options.workDir r.kind ∧
      a.file.fingerprint = (session.files.fingerprint a.file.file.path).toOption := by
  unfold attemptsOf at h
  cases hphase : p.phase r cache.content session.files with
  | error e => simp [hphase] at h
  | ok ph =>
    rw [hphase] at h
    obtain ⟨hname, hdir, hfile⟩ := mem_attempts h
    exact ⟨ph.backend, (phase_eq_ok hphase).1, hname, hdir,
      fingerprint_of_mem_filtered hphase hfile⟩

/-- **A file that an operation skips** is a clean file of its plan, and so are all files before it,
none of which was compiled later. -/
theorem exists_clean_of_mem_skipped {ph : Phase}
    (hphase : p.phase r cache.content session.files = .ok ph)
    (h : path ∈ (p.operate run r clock cache session).outcome.skipped) :
    ∃ n f e, ph.plan.files[n]? = some f ∧ f.path = path ∧
      Clean (cache.content.find? ph.backend.name) (fun f => (session.files.fingerprint f).toOption)
        (libraryPresent ph.backend (p.options.workDir r.kind) session.files) 0 f e ∧
      ∀ (m : Nat) (g : SourceFile), m < n → ph.plan.files[m]? = some g → ∃ e',
        Clean (cache.content.find? ph.backend.name)
          (fun f => (session.files.fingerprint f).toOption)
          (libraryPresent ph.backend (p.options.workDir r.kind) session.files) 0 g e' ∧
        e'.generation ≤ e.generation := by
  rw [skipped_operate run clock hphase] at h
  obtain ⟨x, hx, rfl⟩ := List.mem_map.mp h
  obtain ⟨hmem, hskip⟩ := List.mem_filter.mp hx
  rw [(phase_eq_ok hphase).2.2] at hmem
  obtain ⟨n, hn⟩ := List.mem_iff_getElem?.mp ((filterFor_sublist p ..).subset hmem)
  have haction : x.action = .skip := isBuild_eq_false_iff.mp (by simpa using hskip)
  obtain ⟨e, hclean, -, hbefore⟩ := filter_skip hn haction
  refine ⟨n, x.file, e, getElem?_files_of_filter hn, rfl, hclean, fun m g hm hg => ?_⟩
  -- a decision stands where its file stands in the plan
  rw [← map_file_decideAll false 0 ph.plan.files, List.getElem?_map] at hg
  obtain ⟨y, hy, rfl⟩ := Option.map_eq_some_iff.mp hg
  exact (hbefore m y hm hy).2

/-- A file that an operation skips is a clean file of its plan. -/
theorem clean_of_mem_skipped (h : path ∈ (p.operate run r clock cache session).outcome.skipped) :
    ∃ b plan, p.selectBackend r = .ok b ∧ p.catalog.resolve session.files = .ok plan ∧
      ∃ f ∈ plan.files, f.path = path ∧
        ∃ e, Clean (cache.content.find? b.name) (fun f => (session.files.fingerprint f).toOption)
          (libraryPresent b (p.options.workDir r.kind) session.files) 0 f e := by
  cases hphase : p.phase r cache.content session.files with
  | error e =>
    rw [skipped_operate_of_error run clock hphase] at h
    simp at h
  | ok ph =>
    obtain ⟨hbackend, hplan, -⟩ := phase_eq_ok hphase
    obtain ⟨n, f, e, hf, hpath, hclean, -⟩ := exists_clean_of_mem_skipped hphase h
    exact ⟨ph.backend, ph.plan, hbackend, resolve_of_planFor hplan, f, List.mem_of_getElem? hf,
      hpath, e, hclean⟩

end Project

/-! ## Operations one after the other -/

/-- **An operation that was carried out.** -/
structure Performed where
  /-- What was requested. -/
  request : OperationRequest
  /-- The files with which it began. -/
  files : FileTree
  /-- The attempts that it has made. -/
  attempts : List Attempt

/-- **Operations of a project one after the other**, with the cache that they leave. Nothing is said
of what becomes of the files between them, nor of what the tools do. -/
inductive Operations (p : Project) : List Performed → BuildCache → Prop
  /-- The cache is empty. -/
  | start (cache : BuildCache) (h : cache.content = {}) : Operations p [] cache
  /-- One more operation. -/
  | operate {ρ : Type} {ops : List Performed} {cache : BuildCache} (h : Operations p ops cache)
      (run : Runner ρ) (r : OperationRequest) (clock : Clock) (session : Session ρ) :
      Operations p (ops ++ [⟨r, session.files, p.attemptsOf run r clock cache session⟩])
        (p.operate run r clock cache session).cache
  /-- The cache is cleared. -/
  | clear {ops : List Performed} {cache : BuildCache} (h : Operations p ops cache) (t : FileTree) :
      Operations p ops (cache.clear t).1.1

namespace Operations

variable {p : Project} {ops : List Performed} {cache : BuildCache}

/-- The cache behind operations is the work of their attempts. -/
theorem earned (h : Operations p ops cache) :
    Earned (ops.flatMap (·.attempts)) cache.content := by
  induction h with
  | start cache h =>
    rw [h]
    exact .empty
  | operate _ run r clock session ih =>
    rw [List.flatMap_append, Project.content_operate]
    simpa using ih.foldl clock.now _
  | clear _ t ih =>
    rw [BuildCache.content_clear]
    exact ih.clear

/-- Every attempt was made with the files and in the directory of its operation. -/
theorem mem_attempts (h : Operations p ops cache) {op : Performed} (hop : op ∈ ops) {a : Attempt}
    (ha : a ∈ op.attempts) :
    a.workDir = p.options.workDir op.request.kind ∧
      a.file.fingerprint = (op.files.fingerprint a.file.file.path).toOption := by
  induction h with
  | start => simp at hop
  | operate _ run r clock session ih =>
    rcases List.mem_append.mp hop with hop | hop
    · exact ih hop
    · obtain rfl := List.mem_singleton.mp hop
      obtain ⟨-, -, -, hdir, hfingerprint⟩ := Project.mem_attemptsOf ha
      exact ⟨hdir, hfingerprint⟩
  | clear _ _ ih => exact ih hop

/-- **A skipped file was compiled by an earlier operation**: for the backend of the operation that
skips it, with the fingerprint that it has now, and in the directory of that earlier operation. No
compile of it has failed since, and none was remembered. If both operations are syntheses or none
is, the directory is that of the operation that skips the file. The library of the file is in that
directory in any case, if the backend tells where it is. -/
theorem compiled_of_skipped (h : Operations p ops cache) {ρ : Type} (run : Runner ρ)
    (r : OperationRequest) (clock : Clock) (session : Session ρ) {path : Path}
    (hskip : path ∈ (p.operate run r clock cache session).outcome.skipped) :
    ∃ b plan, p.selectBackend r = .ok b ∧ p.catalog.resolve session.files = .ok plan ∧
      (∃ f ∈ plan.files, f.path = path ∧
        Project.libraryPresent b (p.options.workDir r.kind) session.files f.library = true) ∧
      ∃ i a, LastRemembered (ops.flatMap (·.attempts)) b.name path i a ∧
        ∃ op ∈ ops, a ∈ op.attempts ∧ a.workDir = p.options.workDir op.request.kind ∧
          ((op.request.kind = .synthesize ↔ r.kind = .synthesize) ∨
              p.options.simulationDir = p.options.synthesisDir →
            a.workDir = p.options.workDir r.kind) ∧
          ∃ fingerprint, op.files.fingerprint a.file.file.path = .ok fingerprint ∧
            session.files.fingerprint path = .ok fingerprint := by
  obtain ⟨b, plan, hbackend, hplan, f, hf, rfl, e, hclean⟩ := Project.clean_of_mem_skipped hskip
  obtain ⟨i, a, hlast, hfingerprint⟩ := h.earned.exists_lastRemembered hclean.entry
  obtain ⟨op, hop, ha⟩ := List.mem_flatMap.mp (List.mem_of_getElem? hlast.getElem)
  obtain ⟨hdir, hread⟩ := h.mem_attempts hop ha
  refine ⟨b, plan, hbackend, hplan, ⟨f, hf, rfl, hclean.library⟩, i, a, hlast, op, hop, ha, hdir,
    fun hroles => ?_, e.fingerprint, ?_, ?_⟩
  · rw [hdir]
    exact Project.workDir_eq hroles
  · exact Project.fingerprint_eq_ok (hread.symm.trans hfingerprint)
  · exact Project.fingerprint_eq_ok hclean.current

/-- A compile of the project of two files. -/
theorem operations_pair : ∃ op, Operations pair [op] (runPair .inMemory [0, 0]).cache ∧
    op.request.kind = .compile :=
  ⟨_, .operate (.start .inMemory rfl) codeRunner ⟨.compile, none, none, {}⟩ ⟨⟨"now"⟩, "now"⟩
    (pairSession [0, 0]), rfl⟩

/-- What the second of two compiles skips was compiled in the directory in which it works. -/
theorem compiled_of_skipped_pair :
    ∃ op a, Operations pair [op] (runPair .inMemory [0, 0]).cache ∧ a ∈ op.attempts ∧
      a.IsOn "sim" ⟨"/p/a.v"⟩ ∧ a.workDir = pair.options.simulationDir := by
  have hskip : ⟨"/p/a.v"⟩ ∈ (runPair (runPair .inMemory [0, 0]).cache []).outcome.skipped := by
    decide +kernel
  have hops := operations_pair
  -- the cache behind the first compile is named, since it is not to be computed
  generalize (runPair .inMemory [0, 0]).cache = cache at hskip hops ⊢
  obtain ⟨op, hops, hkind⟩ := hops
  obtain ⟨b, plan, hbackend, -, -, i, a, hlast, op, hop, ha, -, hdir, -⟩ :=
    hops.compiled_of_skipped codeRunner _ _ _ hskip
  obtain rfl := List.mem_singleton.mp hop
  obtain rfl := (Except.ok.inj hbackend : steadyBackend "sim" = b)
  exact ⟨op, a, hops, ha, hlast.isOn, hdir (Or.inl (by rw [hkind]))⟩

/-- Not every file that is skipped was compiled in the directory of the operation that skips it:
where one backend simulates and synthesizes, a synthesis skips what a compile has compiled. -/
theorem not_forall_workDir_eq :
    ¬ ∀ (ρ : Type) (p : Project) (ops : List Performed) (cache : BuildCache),
      Operations p ops cache → ∀ (run : Runner ρ) (r : OperationRequest) (clock : Clock)
        (session : Session ρ), ∀ path ∈ (p.operate run r clock cache session).outcome.skipped,
          ∃ op ∈ ops, ∃ a ∈ op.attempts, a.file.file.path.components = path.components ∧
            a.ending.isPassed = true ∧ a.workDir = p.options.workDir r.kind := by
  intro h
  have hskip : ⟨"/p/a.v"⟩ ∈ (pair.operate codeRunner ⟨.synthesize, some "work.top", none, {}⟩
      ⟨⟨"now"⟩, "now"⟩ (runPair .inMemory [0, 0]).cache (pairSession [])).outcome.skipped := by
    decide +kernel
  have hops := operations_pair
  generalize (runPair .inMemory [0, 0]).cache = cache at hskip hops
  obtain ⟨op, hops, hkind⟩ := hops
  obtain ⟨op', hop, a, ha, -, -, hdir⟩ := h _ pair _ _ hops codeRunner _ _ _ _ hskip
  obtain rfl := List.mem_singleton.mp hop
  have hcompile := (hops.mem_attempts (List.mem_singleton_self _) ha).1
  rw [hkind] at hcompile
  exact absurd (hcompile.symm.trans hdir) (by decide)

end Operations

end RtlFlow
