import RtlFlow.Proofs.Build.Observing
import RtlFlow.Proofs.Build.Resume
import RtlFlow.Proofs.Cache.Durability

/-! # Records that outlast an operation

A cache is stored at once whenever it changes. So a cache in use is opened again as it is, and while
an operation compiles, the record of a file that has passed is in the store before the next
invocation is made (`Project.durable_cache`). The compiles before it need not have been stored, and
what the tools do to the file of the cache is of no account, since every record stores the whole
content. -/

namespace RtlFlow

open OperationStep

/-- **A runner that keeps trees rooted**: what it writes stands in directories. -/
def Runner.KeepsRooted {ρ : Type} (run : Runner ρ) : Prop :=
  ∀ i s, s.files.Rooted → ((run i).run s).2.files.Rooted

/-- A progress whose cache can be stored. -/
def Progress.CanStore {ρ : Type} (q : Progress ρ) : Prop := q.cache.CanStore q.session.files

namespace Project

variable {ρ : Type} {p : Project} {run : Runner ρ} {b : Backend} {r : OperationRequest}
  {clock : Clock}

/-! ## Compiles that leave a cache that can be stored -/

/-- A run of a tool leaves the cache alone, and the tree rooted. -/
theorem triple_ofRun (hrun : run.KeepsRooted) (limit : Option Duration)
    (made : Except ToolError Invocation) :
    Triple Progress.CanStore (ofRun (run.execute limit made)) (fun _ => Progress.CanStore)
      fun _ => Progress.CanStore := by
  intro q hq
  rw [run_ofRun_execute]
  cases made.map (·.within limit) with
  | error e => exact hq
  | ok i =>
    have hroot := hrun i q.session hq.rooted
    dsimp only
    rcases hreply : run i q.session with ⟨e | result, s⟩ <;>
      rw [show (run i).run q.session = _ from hreply] at hroot
    · exact ⟨hroot, hq.storable⟩
    · exact ⟨hroot, hq.storable⟩

/-- What a compile has given is settled in a cache that can be stored. -/
theorem triple_settle (hnow : clock.now.Legible) (b : Backend) (f : PlannedFile) (one : ToolRun) :
    Triple Progress.CanStore (settle b clock f one : OperationStep ρ Unit)
      (fun _ => Progress.CanStore) fun _ => Progress.CanStore := by
  have hcompiled (g : OperationOutcome → OperationOutcome) :
      Triple Progress.CanStore (onOutcome g : OperationStep ρ Unit) (fun _ => Progress.CanStore)
        fun _ => Progress.CanStore := .onOutcome fun _ hq => hq
  unfold settle
  split
  · refine .bind (hcompiled _) fun _ => ?_
    split
    · split
      · exact .bind (.onCache fun q hq => hq.record hnow) fun _ => hcompiled _
      · exact hcompiled _
    · exact .onCache fun q hq => hq.forget
  · exact .pure fun _ hq => hq

/-- A compile leaves a cache that can be stored, however it ends. -/
theorem triple_compileOne (hrun : run.KeepsRooted) (hnow : clock.now.Legible) (p : Project)
    (b : Backend) (r : OperationRequest) (f : PlannedFile) :
    Triple Progress.CanStore (p.compileOne run b r clock f) (fun _ => Progress.CanStore)
      fun _ => Progress.CanStore :=
  .bind ((keeps_stopIfCancelled b : Keeps id _).triple (I := Progress.CanStore) (fun _ hq => hq)
      (fun _ _ hq => hq) fun _ _ hq => hq) fun _ =>
    .bind (triple_ofRun hrun _ _) fun one =>
      .bind (triple_settle hnow b f one) fun _ => .pure fun _ hq => hq

/-! ## Between two compiles -/

/-- **The loop has compiled its first files** from a progress on: each compile has passed. It goes
on from the log and the progress to which they have come. -/
inductive Compiled (p : Project) (run : Runner ρ) (b : Backend) (r : OperationRequest)
    (clock : Clock) (start : Progress ρ) :
    List PlannedFile → Option ToolRun → Progress ρ → Prop
  /-- It has compiled none. -/
  | start : Compiled p run b r clock start [] none start
  /-- One more compile has passed. -/
  | passed {done : List PlannedFile} {log : Option ToolRun} {q q' : Progress ρ} {f : PlannedFile}
      {one : ToolRun} (h : Compiled p run b r clock start done log q)
      (hrun : (p.compileOne run b r clock f).run q = (.ok one, q'))
      (hpasses : passes b one = true) :
      Compiled p run b r clock start (done ++ [f]) (some (ToolRun.after log one)) q'

variable {start q q' : Progress ρ} {done : List PlannedFile} {log : Option ToolRun}

/-- The loop goes on from where its first files have led. -/
theorem Compiled.run_compileAll (h : p.Compiled run b r clock start done log q)
    (rest : List PlannedFile) :
    (p.compileAll run b r clock none (done ++ rest)).run start =
      (p.compileAll run b r clock log rest).run q := by
  induction h generalizing rest with
  | start => rfl
  | @passed done log q q' f one h hrun hpasses ih =>
    rw [List.append_assoc, ih, List.singleton_append, compileAll, run_bind_of_ok hrun]
    dsimp only
    rw [if_pos hpasses]

/-- The loop leaves a cache that can be stored. -/
theorem Compiled.canStore (h : p.Compiled run b r clock start done log q)
    (hrun : run.KeepsRooted) (hnow : clock.now.Legible) (hstart : start.CanStore) :
    q.CanStore := by
  induction h with
  | start => exact hstart
  | @passed done log q q' f one h hone hpasses ih =>
    have hend := triple_compileOne hrun hnow p b r f q ih
    rw [hone] at hend
    exact hend

/-- **A compile that passes and whose record is stored**: cancellation was not asked for, the tool
was run, its output is that of a success, and storing the cache with the record has succeeded. -/
structure Records (p : Project) (run : Runner ρ) (b : Backend) (r : OperationRequest)
    (clock : Clock) (f : PlannedFile) (fingerprint : String) (one : ToolRun)
    (q q' : Progress ρ) : Prop where
  /-- Cancellation was not asked for. -/
  goesOn : q.session.cancelled = false
  /-- The tool was run. -/
  ran : (p.runCompile run b r f.file).run q = (.ok one, q')
  /-- The compile has passed. -/
  passes : passes b one = true
  /-- The file had this fingerprint when the decision on it was made. -/
  known : f.fingerprint = some fingerprint
  /-- The cache with the record could be stored. -/
  stored : (q'.cache.record b.name f.file.path fingerprint
    (outcomeOf (b.classifier.classify one.result).verdict) clock.now q'.session.files).1.2 = none

variable {f : PlannedFile} {fingerprint : String} {one : ToolRun}

/-- A compile that passes is settled with its record. -/
theorem exists_run_settle (hpasses : passes b one = true)
    (hknown : f.fingerprint = some fingerprint) (clock : Clock) (q : Progress ρ) :
    ∃ q', (settle b clock f one).run q = (.ok (), q') ∧
      q'.cache = (q.cache.record b.name f.file.path fingerprint
        (outcomeOf (b.classifier.classify one.result).verdict) clock.now q.session.files).1.1 ∧
      q'.session.files = (q.cache.record b.name f.file.path fingerprint
        (outcomeOf (b.classifier.classify one.result).verdict) clock.now q.session.files).2 := by
  unfold Project.passes at hpasses
  simp only [Bool.and_eq_true, Bool.not_eq_true'] at hpasses
  obtain ⟨hcancelled, hsuccess⟩ := hpasses
  unfold settle
  simp only [hcancelled, hsuccess, hknown, Bool.not_false, if_true, run_bind, run_onOutcome,
    run_onCache]
  exact ⟨_, rfl, rfl, rfl⟩

/-- **Behind a compile whose record is stored** the cache is opened again as it is, with the
record. -/
theorem Records.exists_kept (h : p.Records run b r clock f fingerprint one q q')
    (hrun : run.KeepsRooted) (hnow : clock.now.Legible) (hq : q.CanStore) :
    ∃ q'', (p.compileOne run b r clock f).run q = (.ok one, q'') ∧
      q''.cache.Kept q''.session.files ∧
      q''.cache.content = q'.cache.content.record b.name f.file.path fingerprint
        (outcomeOf (b.classifier.classify one.result).verdict) clock.now := by
  have hq' : q'.CanStore := by
    have hend := triple_ofRun hrun p.options.compileTimeout
      (b.prepareCompile ⟨f.file, p.options.workDir r.kind, p.includesFor b r⟩) q hq
    rw [show (ofRun _).run q = (.ok one, q') from h.ran] at hend
    exact hend
  have hgo : (stopIfCancelled b).run q = (.ok (), q) := by
    rw [run_stopIfCancelled, h.goesOn, if_neg (by simp)]
  obtain ⟨q'', hsettle, hcache, hfiles⟩ := exists_run_settle h.passes h.known clock q'
  refine ⟨q'', ?_, ?_, ?_⟩
  · unfold compileOne
    rw [run_bind_of_ok hgo, run_bind_of_ok h.ran, run_bind_of_ok hsettle]
    rfl
  · rw [hcache, hfiles]
    exact (hq'.sound_of_record hnow (Prod.ext (Prod.ext rfl h.stored) rfl)).kept
  · rw [hcache]
    exact BuildCache.content_record ..

/-! ## Caches that are opened again -/

/-- **What executing does behind the loop**: it runs the target, if there is one. -/
def behindLoop (p : Project) (run : Runner ρ) (b : Backend) (r : OperationRequest)
    (target : Option Target) (plan : BuildPlan) :
    Execution ⊕ Option ToolRun → OperationStep ρ Execution
  | .inl stopped => return stopped
  | .inr log => do
    stopIfCancelled b
    match r.kind, target with
    | .simulate, some target =>
      return ⟨some (← runSimulate p run b r plan target), .simulate, target.render, false⟩
    | .synthesize, some target =>
      return ⟨some (← runSynthesize p run b r plan target), .synthesize, target.render, false⟩
    | _, _ => return ⟨log, .compile, "project", false⟩

/-- Executing is the loop and what comes behind it. -/
theorem executeFor_eq (p : Project) (run : Runner ρ) (b : Backend) (r : OperationRequest)
    (clock : Clock) (target : Option Target) (plan : BuildPlan) (filtered : FilteredPlan) :
    p.executeFor run b r clock target plan filtered =
      p.compileAll run b r clock none filtered.toBuild >>= p.behindLoop run b r target plan := by
  unfold executeFor
  refine congrArg _ (funext fun x => ?_)
  cases x <;> rfl

/-- **Durability.** A cache that was opened on a store and on which every call has succeeded is
opened again from that store with the entries and the counter that it has, so that it decides on
every plan as before. When executing has compiled a file and stored its record, the store is opened
with that record from where executing goes on, which is before the next invocation is made: whatever
the compiles before it have left in the store, and whatever the tools have done to it. -/
theorem durable_cache :
    (∀ (c : BuildCache) (t : FileTree), c.Used t →
      c.Kept t ∧ ∀ again t', (BuildCache.openStore c.store).run t = (.ok again, t') →
        again.content.entries = c.content.entries ∧
        again.content.lastGeneration = c.content.lastGeneration ∧
        ∀ plan backend fingerprint? present,
          again.content.filter plan backend fingerprint? present =
            c.content.filter plan backend fingerprint? present) ∧
    ∀ (ρ : Type) (p : Project) (run : Runner ρ) (b : Backend) (r : OperationRequest) (clock : Clock)
      (target : Option Target) (plan : BuildPlan) (filtered : FilteredPlan) (start : Progress ρ),
      start.cache.Used start.session.files → run.KeepsRooted → clock.now.Legible →
      ∀ (done : List PlannedFile) (f : PlannedFile) (rest : List PlannedFile) (log : Option ToolRun)
        (fingerprint : String) (one : ToolRun) (q q' : Progress ρ),
        filtered.toBuild = done ++ f :: rest →
        p.Compiled run b r clock start done log q →
        p.Records run b r clock f fingerprint one q q' →
        ∃ q'',
          (p.executeFor run b r clock target plan filtered).run start =
            (p.compileAll run b r clock (some (ToolRun.after log one)) rest >>=
              p.behindLoop run b r target plan).run q'' ∧
          q''.cache.Kept q''.session.files ∧
          q''.cache.content.find? b.name f.file.path =
            some ⟨fingerprint, outcomeOf (b.classifier.classify one.result).verdict, clock.now,
              q'.cache.content.lastGeneration + 1⟩ := by
  constructor
  · intro c t hused
    obtain ⟨t', hopen⟩ := hused.kept
    refine ⟨⟨t', hopen⟩, fun again t'' hagain => ?_⟩
    rw [hopen] at hagain
    cases hagain
    exact ⟨rfl, rfl, fun _ _ _ _ => rfl⟩
  · intro ρ p run b r clock target plan filtered start hused hrun hnow done f rest log fingerprint
      one q q' hfiles hdone hrecords
    have hstart : start.CanStore := hused.sound.toCanStore
    obtain ⟨q'', hone, hkept, hcontent⟩ :=
      hrecords.exists_kept hrun hnow (hdone.canStore hrun hnow hstart)
    -- the loop has now compiled one file more, and goes on from there
    have hmore := (hdone.passed hone hrecords.passes).run_compileAll rest
    rw [List.append_assoc, List.singleton_append, ← hfiles] at hmore
    refine ⟨q'', ?_, hkept, ?_⟩
    · rw [executeFor_eq, run_bind, run_bind, hmore]
    · rw [hcontent, CacheContent.find?_record, if_pos ⟨rfl, rfl⟩]

/-! ## A cache in a file -/

/-- A cache in a file, which is not there yet. -/
def pairStore : BuildCache := ⟨.file ⟨"/c.json"⟩, {}⟩

/-- A point in time that can be read again. -/
def pairClock : Clock := ⟨⟨"2024-05-01T12:00:00Z"⟩, "now"⟩

/-- The decision on the first of two files when nothing is remembered. -/
def pairFirst : PlannedFile where
  file := ⟨⟨"/p/a.v"⟩, "work", .verilog, true, .empty, [], []⟩
  action := .build .notCached
  fingerprint := some (Sha256.hex [])

theorem legible_pairClock : pairClock.now.Legible := by
  unfold Timestamp.Legible
  decide +kernel

theorem used_pairStore : pairStore.Used pairFiles := by
  have hload : (CacheStore.file ⟨"/c.json"⟩).load pairFiles = .ok none := by decide +kernel
  refine .opened (s := .file ⟨"/c.json"⟩) (t := pairFiles)
    (FileTree.rooted_of_entries (by decide +kernel)) ?_
  unfold BuildCache.openStore
  simp only [FileAction.run_bind, FileAction.run_get]
  rw [hload]
  rfl

/-- The compile of the first of two files is stored. -/
theorem exists_records_pair : ∃ one q,
    pair.Records codeRunner (steadyBackend "sim") ⟨.compile, none, none, {}⟩ pairClock pairFirst
      (Sha256.hex []) one ((pairPhase {}).start pairStore (pairSession [0, 0])) q :=
  ⟨⟨⟨.exited 0, "", "", ⟨0, 0⟩⟩, []⟩, (pairPhase {}).start pairStore (pairSession [0]), rfl, rfl,
    by decide +kernel, rfl, by decide +kernel⟩

/-- A cache in a file with one record is opened again as it is, and when the first of two files was
compiled, its record is in the file. -/
theorem durable_cache_pair :
    (∃ (c : BuildCache) (t : FileTree), c.Used t ∧ c.store = .file ⟨"/c.json"⟩ ∧
        c.content.size = 1 ∧ c.Kept t) ∧
      ∃ q : Progress (List Int), q.cache.Kept q.session.files ∧
        ∃ e, q.cache.content.find? "sim" ⟨"/p/a.v"⟩ = some e ∧ e.fingerprint = Sha256.hex [] := by
  obtain ⟨hkept, hstored⟩ := durable_cache
  constructor
  · -- what the call answers is named, since it is not to be computed
    obtain ⟨⟨⟨c, e⟩, t⟩, hrun⟩ : ∃ x, pairStore.record "sim" ⟨"/p/a.v"⟩ (Sha256.hex []) .passed
      pairClock.now pairFiles = x := ⟨_, rfl⟩
    have hnone : (pairStore.record "sim" ⟨"/p/a.v"⟩ (Sha256.hex []) .passed pairClock.now
      pairFiles).1.2 = none := by decide +kernel
    have hstore : (pairStore.record "sim" ⟨"/p/a.v"⟩ (Sha256.hex []) .passed pairClock.now
      pairFiles).1.1.store = .file ⟨"/c.json"⟩ := by decide +kernel
    have hsize : (pairStore.record "sim" ⟨"/p/a.v"⟩ (Sha256.hex []) .passed pairClock.now
      pairFiles).1.1.content.size = 1 := by decide +kernel
    rw [hrun] at hnone hstore hsize
    obtain rfl : e = none := hnone
    have hused := used_pairStore.record "sim" ⟨"/p/a.v"⟩ (Sha256.hex []) .passed legible_pairClock
      hrun
    exact ⟨c, t, hused, hstore, hsize, (hkept c t hused).1⟩
  · obtain ⟨one, q, hrecords⟩ := exists_records_pair
    have hfiles : (pairPhase {}).filtered.toBuild =
        [] ++ pairFirst :: (pairPhase {}).filtered.toBuild.drop 1 := by decide +kernel
    obtain ⟨q', -, hkept', hfind⟩ := hstored _ pair codeRunner _ _ pairClock none pairPlan
      (pairPhase {}).filtered _ used_pairStore (fun _ _ h => h) legible_pairClock [] pairFirst _
      none (Sha256.hex []) one _ q hfiles .start hrecords
    exact ⟨q', hkept', _, hfind, rfl⟩

end Project

end RtlFlow
