import RtlFlow.Proofs.Build.WorkDirectory

/-! # Deleted libraries

That a compiled library is missing is seen from its directory alone, and no trace of it stays in the
cache. A file whose library was found missing is skipped later on without having been compiled only
when the directory has come back in the meantime, and when neither the file nor one that stands
before it in the later plan was compiled since (`Operations.skipped_after_missing`). That this
happens is shown by `Operations.not_forall_compiled_after_missing`: a compile whose first command
makes the directory anew and whose second one does not start leaves the entry of the file. -/

namespace RtlFlow

open CacheContent Project

/-- **Operations that follow a cache**, with the cache that they leave. -/
inductive Follows (p : Project) (start : BuildCache) : List Performed → BuildCache → Prop
  /-- There are none. -/
  | none : Follows p start [] start
  /-- One more operation. -/
  | operate {ρ : Type} {ops : List Performed} {cache : BuildCache} (h : Follows p start ops cache)
      (run : Runner ρ) (r : OperationRequest) (clock : Clock) (session : Session ρ) :
      Follows p start (ops ++ [⟨r, session.files, p.attemptsOf run r clock cache session⟩])
        (p.operate run r clock cache session).cache
  /-- The cache is cleared. -/
  | clear {ops : List Performed} {cache : BuildCache} (h : Follows p start ops cache)
      (t : FileTree) : Follows p start ops (cache.clear t).1.1

namespace Operations

variable {p : Project} {before since : List Performed} {start cache : BuildCache}

/-- Operations and those that follow them are one row. -/
theorem append (h : Operations p before start) (hsince : Follows p start since cache) :
    Operations p (before ++ since) cache := by
  induction hsince with
  | none => rwa [List.append_nil]
  | operate _ run r clock session ih =>
    rw [← List.append_assoc]
    exact ih.operate run r clock session
  | clear _ t ih => exact ih.clear t

end Operations

namespace LastRemembered

variable {before since : List Attempt} {name : String} {path : Path} {i : Nat} {a : Attempt}

/-- When the last attempt that was remembered lies before others, none of these was remembered, and
none has failed. -/
theorem quiet_since (h : LastRemembered (before ++ since) name path i a) (hi : i < before.length) :
    ∀ b ∈ since, b.IsOn name path → b.isRemembered = false ∧ b.ending ≠ .failed := by
  intro b hb hon
  obtain ⟨j, hj⟩ := List.mem_iff_getElem?.mp hb
  have hplace : (before ++ since)[before.length + j]? = some b := by
    rw [List.getElem?_append_right (by omega), Nat.add_sub_cancel_left, hj]
  exact ⟨h.last _ b (by omega) hplace hon, h.not_failed _ b (by omega) hplace hon⟩

/-- Otherwise it is one of these. -/
theorem mem_since (h : LastRemembered (before ++ since) name path i a) (hi : before.length ≤ i) :
    a ∈ since := by
  have hplace := h.getElem
  rw [List.getElem?_append_right hi] at hplace
  exact List.mem_of_getElem? hplace

end LastRemembered

namespace Operations

variable {p : Project} {before since : List Performed} {start cache : BuildCache}

/-- **What it takes for a missing library to be forgotten.** An operation has found the library of a
file missing, and a later one with its backend in its directory skips the file. Then the file was
compiled with success since, or else the library has come back, no compile of the file has failed
since, and no file that stands at or before it in the later plan was compiled with success since. -/
theorem skipped_after_missing (hc : p.catalog.Registered) (h : Operations p before start)
    {ρ ρ' : Type} (run : Runner ρ) {r : OperationRequest} (clock : Clock) {session : Session ρ}
    {ph : Phase} (hphase : p.phase r start.content session.files = .ok ph) {x : PlannedFile}
    (hx : x ∈ ph.filtered.entries) (hmissing : x.action = .build .libraryMissing)
    (hsince : Follows p (p.operate run r clock start session).cache since cache)
    {attempts : List Attempt}
    (hattempts : attempts = p.attemptsOf run r clock start session ++ since.flatMap (·.attempts))
    (hroom : (before.flatMap (·.attempts) ++ attempts).length < UInt64.size)
    (run' : Runner ρ') {r' : OperationRequest} (clock' : Clock) {session' : Session ρ'}
    {ph' : Phase} (hphase' : p.phase r' cache.content session'.files = .ok ph')
    (hbackend : ph'.backend = ph.backend)
    (hdir : p.options.workDir r'.kind = p.options.workDir r.kind)
    (hskip : x.file.path ∈ (p.operate run' r' clock' cache session').outcome.skipped) :
    (∃ a ∈ attempts, a.IsOn ph.backend.name x.file.path ∧ a.isRemembered = true) ∨
      (libraryPresent ph.backend (p.options.workDir r.kind) session.files x.file.library = false ∧
        libraryPresent ph.backend (p.options.workDir r.kind) session'.files x.file.library =
          true) ∧
        (∀ a ∈ attempts, a.IsOn ph.backend.name x.file.path → a.ending ≠ .failed) ∧
        ∃ n, ph'.plan.files[n]? = some x.file ∧ ∀ (m : Nat) (g : SourceFile), m ≤ n →
          ph'.plan.files[m]? = some g →
            ∀ a ∈ attempts, a.IsOn ph.backend.name g.path → a.isRemembered = false := by
  have hearned : Earned (before.flatMap (·.attempts) ++ attempts) cache.content := by
    have hall := ((h.operate run r clock session).append hsince).earned
    rw [List.flatMap_append, List.flatMap_append, List.flatMap_singleton, List.append_assoc,
      ← hattempts] at hall
    exact hall
  obtain ⟨n, f, e, hf, hpath, hclean, hbefore⟩ := exists_clean_of_mem_skipped hphase' hskip
  rw [hbackend, hdir] at hclean hbefore
  obtain ⟨i, a, hlast, -⟩ := hearned.exists_lastRemembered hclean.entry
  -- the file of the later plan is the one whose library was missing
  obtain rfl : f = x.file := by
    have hx' := (hc.mem_plan (resolve_of_planFor (phase_eq_ok hphase).2.1)).mp
      (file_mem_plan hphase hx)
    have hf' := (hc.mem_plan (resolve_of_planFor (phase_eq_ok hphase').2.1)).mp
      (List.mem_of_getElem? hf)
    exact hc.eq_of_same_path hf' hx' (Path.same_iff.mpr (by rw [hpath]))
  rcases Nat.lt_or_ge i (before.flatMap (·.attempts)).length with hi | hi
  · refine Or.inr ⟨⟨?_, hclean.library⟩, fun b hb hon => (hlast.quiet_since hi b hb hon).2, n, hf,
      fun m g hm hg b hb hon => ?_⟩
    · rw [(phase_eq_ok hphase).2.2] at hx
      exact present_of_mem_decideAll x ((filterFor_sublist p ..).subset hx) hmissing
    · rcases Nat.lt_or_eq_of_le hm with hlt | rfl
      · obtain ⟨e', hclean', hle⟩ := hbefore m g hlt hg
        obtain ⟨j, b', hlast', -⟩ := hearned.exists_lastRemembered hclean'.entry
        -- if it had been compiled since, it would be newer than the file
        have hj : j < (before.flatMap (·.attempts)).length := by
          by_contra hj
          have hnewer := hearned.generation_lt hroom hclean.entry hclean'.entry hlast hlast'
            (by omega)
          exact absurd hnewer (Nat.not_lt.mpr hle)
        exact (hlast'.quiet_since hj b hb hon).1
      · obtain rfl := Option.some.inj (hf.symm.trans hg)
        exact (hlast.quiet_since hi b hb hon).1
  · exact Or.inl ⟨a, hlast.mem_since hi, hlast.isOn, hlast.remembered⟩

end Operations

/-! ## A library that is made anew -/

namespace Project

/-- A backend that keeps every library in a directory of its own. -/
def shelvedBackend : Backend :=
  { steadyBackend "sim" with libraryDir := fun library dir => some (dir.child library) }

/-- The project of two files with that backend. -/
def shelved : Project := { pair with registry := BackendRegistry.register {} shelvedBackend }

/-- A runner that makes the directory of the library, and whose next command then starts or does
not. -/
def shelfRunner : Runner (List Bool) := fun _ s =>
  let files := ((FileTree.makeDirs ⟨"/p/simulation/work"⟩).run s.files).2
  let session := ⟨files, s.cancelled, s.runner.tail⟩
  if s.runner.headD true then (.ok ⟨.exited 0, "", "", ⟨0, 0⟩⟩, session)
  else (.error (.invocation "sim" "not found"), session)

/-- The request for a compile. -/
def compileRequest : OperationRequest := ⟨.compile, none, none, {}⟩

/-- The cache behind a first compile of the project. -/
def shelvedCache : BuildCache :=
  (shelved.operate shelfRunner compileRequest ⟨⟨"now"⟩, "now"⟩ .inMemory
    ⟨pairFiles, false, []⟩).cache

/-- The session of the compile behind it, without the directory; its command does not start. -/
def brokenSession : Session (List Bool) := ⟨pairFiles, false, [false]⟩

/-- The phase of a compile without the directory. -/
def shelvedPhase (c : CacheContent) : Phase where
  backend := shelvedBackend
  target := none
  plan := pairPlan
  filtered := shelved.filterFor shelvedBackend .compile pairPlan c pairFiles

theorem phase_shelved (c : CacheContent) :
    shelved.phase compileRequest c brokenSession.files = .ok (shelvedPhase c) := rfl

/-- Without the directory, the library of the first file is missing. -/
theorem missing_shelved : ∃ x ∈ (shelvedPhase shelvedCache.content).filtered.entries,
    x.file.path = ⟨"/p/a.v"⟩ ∧ x.file.library = "work" ∧ x.action = .build .libraryMissing := by
  have hentries : (shelvedPhase shelvedCache.content).filtered.entries.head?.map
      (fun x => (x.file.path, x.file.library, x.action)) =
        some (⟨"/p/a.v"⟩, "work", .build .libraryMissing) := by
    decide +kernel
  obtain ⟨x, hx, heq⟩ := Option.map_eq_some_iff.mp hentries
  simp only [Prod.mk.injEq] at heq
  exact ⟨x, List.mem_of_mem_head? hx, heq⟩

/-- The compile without the directory comes to one file and does not compile it. -/
theorem attempts_shelved :
    (shelved.attemptsOf shelfRunner compileRequest ⟨⟨"now"⟩, "now"⟩ shelvedCache
        brokenSession).map (·.ending.isPassed) = [false] := by
  decide +kernel

/-- The compile behind it skips the file. -/
theorem skipped_shelved : ∃ q, shelved.operate shelfRunner compileRequest ⟨⟨"now"⟩, "now"⟩
      shelvedCache brokenSession = q ∧
    ⟨"/p/a.v"⟩ ∈ (shelved.operate shelfRunner compileRequest ⟨⟨"now"⟩, "now"⟩ q.cache
      ⟨q.session.files, false, []⟩).outcome.skipped :=
  ⟨_, rfl, by decide +kernel⟩

end Project

namespace Operations

/-- The first compile of the project. -/
theorem operations_shelved : ∃ op, Operations shelved [op] shelvedCache ∧ op.attempts.length = 2 :=
  ⟨_, .operate (.start .inMemory rfl) shelfRunner compileRequest ⟨⟨"now"⟩, "now"⟩
    ⟨pairFiles, false, []⟩, by decide +kernel⟩

/-- The library that the second compile has missed has come back when the third one skips the
file. -/
theorem skipped_after_missing_shelved :
    ∃ (q : Progress (List Bool)) (path : Path),
      path ∈ (shelved.operate shelfRunner compileRequest ⟨⟨"now"⟩, "now"⟩ q.cache
        ⟨q.session.files, false, []⟩).outcome.skipped ∧
      libraryPresent shelvedBackend shelved.options.simulationDir pairFiles "work" = false ∧
      libraryPresent shelvedBackend shelved.options.simulationDir q.session.files "work" = true := by
  obtain ⟨x, hx, hpath, hlibrary, hmissing⟩ := missing_shelved
  obtain ⟨op, hops, hlength⟩ := operations_shelved
  obtain ⟨q, hq, hskip⟩ := skipped_shelved
  have hattempts := attempts_shelved
  -- the cache behind the first compile is named, since it is not to be computed
  generalize shelvedCache = start at hx hops hq hattempts
  refine ⟨q, x.file.path, hpath ▸ hskip, ?_⟩
  rw [← hpath] at hskip
  obtain ⟨later, hlater⟩ : ∃ later : Session (List Bool), later = ⟨q.session.files, false, []⟩ :=
    ⟨_, rfl⟩
  rw [← hlater] at hskip
  cases hphase : shelved.phase compileRequest q.cache.content later.files with
  | error e =>
    rw [skipped_operate_of_error shelfRunner ⟨⟨"now"⟩, "now"⟩ hphase] at hskip
    simp at hskip
  | ok ph =>
    have hbackend : ph.backend = shelvedBackend := (Except.ok.inj (phase_eq_ok hphase).1).symm
    have hcount := congrArg List.length hattempts
    rw [List.length_map, List.length_singleton] at hcount
    have hroom : ([op].flatMap (·.attempts) ++ shelved.attemptsOf shelfRunner compileRequest
        ⟨⟨"now"⟩, "now"⟩ start brokenSession).length < UInt64.size := by
      rw [List.length_append, List.flatMap_singleton, hlength, hcount]
      decide
    have hfollows : Follows shelved (shelved.operate shelfRunner compileRequest
        ⟨⟨"now"⟩, "now"⟩ start brokenSession).cache [] q.cache := hq ▸ .none
    have hregistered : shelved.catalog.Registered := registered_pair
    rcases skipped_after_missing hregistered hops shelfRunner ⟨⟨"now"⟩, "now"⟩
      (phase_shelved start.content) hx hmissing hfollows (by simp) hroom shelfRunner
      ⟨⟨"now"⟩, "now"⟩ hphase hbackend rfl hskip with ⟨a, ha, -, hremembered⟩ | ⟨hback, -⟩
    · -- nothing was compiled in between
      have hpassed := List.mem_map_of_mem (f := fun a : Attempt => a.ending.isPassed) ha
      rw [hattempts, List.mem_singleton] at hpassed
      simp [Attempt.isRemembered, hpassed] at hremembered
    · rwa [hlibrary, hlater] at hback

/-- Not every file whose library was found missing is compiled before it is skipped: here the same
compile once more, with the files as the broken one has left them, skips it. -/
theorem not_forall_compiled_after_missing :
    ¬ ∀ (ρ : Type) (p : Project) (before : List Performed) (start : BuildCache),
      p.catalog.Registered → Operations p before start → ∀ (run : Runner ρ) (r : OperationRequest)
        (clock : Clock) (session : Session ρ) (ph : Phase),
        p.phase r start.content session.files = .ok ph → ∀ x ∈ ph.filtered.entries,
          x.action = .build .libraryMissing → ∀ (q : Progress ρ) (more : ρ),
            p.operate run r clock start session = q →
              x.file.path ∈ (p.operate run r clock q.cache
                ⟨q.session.files, false, more⟩).outcome.skipped →
                ∃ a ∈ p.attemptsOf run r clock start session,
                  a.IsOn ph.backend.name x.file.path ∧ a.ending.isPassed = true := by
  intro h
  obtain ⟨x, hx, hpath, -, hmissing⟩ := missing_shelved
  obtain ⟨op, hops, -⟩ := operations_shelved
  obtain ⟨q, hq, hskip⟩ := skipped_shelved
  have hattempts := attempts_shelved
  generalize shelvedCache = start at hx hops hq hattempts
  rw [← hpath] at hskip
  obtain ⟨a, ha, -, hpassed⟩ := h _ shelved _ start registered_pair hops shelfRunner compileRequest
    ⟨⟨"now"⟩, "now"⟩ brokenSession _ (phase_shelved start.content) x hx hmissing q [] hq hskip
  have hmem := List.mem_map_of_mem (f := fun a : Attempt => a.ending.isPassed) ha
  rw [hattempts, List.mem_singleton] at hmem
  simp [hpassed] at hmem

end Operations

end RtlFlow
