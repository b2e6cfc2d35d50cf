import RtlFlow.Proofs.Build.History
import RtlFlow.Proofs.Build.Phases
import RtlFlow.Proofs.Plan.CompileOrder

/-! # Exact resumption

A run of the loop that stops leaves a cache with which the next run goes on where it has stopped.
The files that were compiled become clean, since they are the newest and stand in the order of their
generations (`cleanRun_of_remembered`). The next file is not clean: what is remembered of it, if
anything, is older than they are, and if there are none of them nothing has changed for it
(`cutsAt_behind`). -/

namespace RtlFlow

open CacheContent

/-! ## The cache behind a run -/

section Resumed

variable {c : CacheContent} {name : String} {fingerprint? : Path → Option String}
  {present : String → Bool} {now : Timestamp}

/-- **Files that were compiled one after the other are clean**, whatever was compiled before. -/
theorem cleanRun_of_remembered (now : Timestamp) {as : List Attempt}
    (hroom : c.lastGeneration.toNat + as.length < UInt64.size)
    (hremembered : ∀ a ∈ as, a.backend = name ∧ a.isRemembered = true ∧
      fingerprint? a.file.file.path = a.file.fingerprint ∧ present a.file.file.library = true)
    (hdistinct : as.Pairwise fun a b =>
      a.file.file.path.components ≠ b.file.file.path.components)
    {newest : UInt64} (hnewest : newest.toNat ≤ c.lastGeneration.toNat) :
    ∃ last, CleanRun ((as.foldl (fun c a => a.leave now c) c).find? name) fingerprint? present
        newest (as.map (·.file.file)) last ∧
      newest.toNat ≤ last.toNat ∧ (as ≠ [] → c.lastGeneration.toNat < last.toNat) := by
  induction as generalizing c newest with
  | nil => exact ⟨newest, .nil newest, Nat.le_refl _, fun h => absurd rfl h⟩
  | cons a as ih =>
    obtain ⟨hbackend, ha, hcurrent, hpresent⟩ := hremembered a (List.mem_cons_self ..)
    obtain ⟨hfirst, hrest⟩ := List.pairwise_cons.mp hdistinct
    rw [List.length_cons] at hroom
    have hsucc := toNat_succ (Nat.le_refl c.lastGeneration.toNat) (by omega)
    rcases a.leave_cases now c with ⟨fingerprint, outcome, -, hfingerprint, heq⟩ | ⟨h, -⟩ | ⟨h, -⟩
    · -- its entry is the newest one, so that the files behind it are compared with it
      rw [List.foldl_cons, heq]
      have hgeneration : (c.record a.backend a.file.file.path fingerprint outcome
          now).lastGeneration.toNat = c.lastGeneration.toNat + 1 := hsucc
      obtain ⟨last, hclean, hle, -⟩ := ih (by rw [hgeneration]; omega)
        (fun b hb => hremembered b (List.mem_cons_of_mem _ hb)) hrest (Nat.le_refl _)
      rw [hgeneration] at hle
      refine ⟨last, .cons (e := ⟨fingerprint, outcome, now, c.lastGeneration + 1⟩)
        ⟨?_, hcurrent.trans hfingerprint, hpresent, ?_⟩ hclean, by omega, fun _ => by omega⟩
      · -- the attempts behind it are on other files
        rw [Attempt.find?_foldl_leave, find?_record, if_pos ⟨hbackend.symm, rfl⟩]
        exact fun b hb hon => hfirst b hb hon.2.symm
      · rw [UInt64.le_iff_toNat_le, hsucc]
        omega
    · simp [ha] at h
    · simp [ha] at h

/-- **The attempts of a run on a row of files**: those on the first files were remembered, and the
others are on files behind them, of which the next one was not remembered. -/
structure FrontRemembered (name : String) (fingerprint? : Path → Option String)
    (done rest : List SourceFile) (first others : List Attempt) : Prop where
  /-- The first attempts are on the first files. -/
  first_files : first.map (·.file.file) = done
  /-- They were remembered with the fingerprints that the files have. -/
  first_remembered : ∀ a ∈ first, a.backend = name ∧ a.isRemembered = true ∧
    fingerprint? a.file.file.path = a.file.fingerprint
  /-- The others are on the other files. -/
  others_files : ∀ a ∈ others, a.file.file ∈ rest
  /-- The next file was not remembered. -/
  next_not_remembered : ∀ a ∈ others, a.file.file ∈ rest.head? → a.isRemembered = false

variable {files clean done rest : List SourceFile} {last : UInt64} {first others : List Attempt}

/-- Files with the same components of the path are the same where all are different. -/
theorem eq_of_components_eq {files : List SourceFile}
    (hdistinct : files.Pairwise fun f g => f.path.components ≠ g.path.components)
    {f g : SourceFile} (hf : f ∈ files) (hg : g ∈ files)
    (h : f.path.components = g.path.components) : f = g := by
  have hnodup : (files.map (·.path.components)).Nodup := List.pairwise_map.mpr hdistinct
  exact List.inj_on_of_nodup_map hnodup hf hg h

namespace FrontRemembered

theorem file_mem_done (hrun : FrontRemembered name fingerprint? done rest first others)
    {a : Attempt} (ha : a ∈ first) : a.file.file ∈ done := by
  rw [← hrun.first_files]
  exact List.mem_map_of_mem ha

/-- Only files of the row were attempted. -/
theorem file_mem (hrun : FrontRemembered name fingerprint? done rest first others) {a : Attempt}
    (ha : a ∈ first ++ others) : a.file.file ∈ done ++ rest := by
  rcases List.mem_append.mp ha with ha | ha
  · exact List.mem_append_left _ (hrun.file_mem_done ha)
  · exact List.mem_append_right _ (hrun.others_files a ha)

/-- What is remembered of the next file was so before the run. -/
theorem find?_next (hrun : FrontRemembered name fingerprint? done rest first others)
    (hdistinct : (done ++ rest).Pairwise fun f g => f.path.components ≠ g.path.components)
    {f : SourceFile} (hf : f ∈ rest.head?) {e : CacheEntry}
    (he : ((first ++ others).foldl (fun c a => a.leave now c) c).find? name f.path = some e) :
    c.find? name f.path = some e := by
  have hmem := List.mem_of_mem_head? hf
  obtain ⟨-, hrest, hcross⟩ := List.pairwise_append.mp hdistinct
  refine Attempt.find?_of_find?_foldl_leave now (fun a ha hon => ?_) he
  rcases List.mem_append.mp ha with ha | ha
  · exact absurd hon.2 (hcross _ (hrun.file_mem_done ha) f hmem)
  · obtain rfl := eq_of_components_eq hrest (hrun.others_files a ha) hmem hon.2
    exact hrun.next_not_remembered a ha hf

/-- The first files are clean behind the run. -/
theorem cleanRun (hrun : FrontRemembered name fingerprint? done rest first others)
    (hroom : c.lastGeneration.toNat + done.length < UInt64.size)
    (hpresent : ∀ f ∈ done, present f.library = true)
    (hdistinct : (done ++ rest).Pairwise fun f g => f.path.components ≠ g.path.components)
    {newest : UInt64} (hnewest : newest.toNat ≤ c.lastGeneration.toNat) :
    ∃ last, CleanRun (((first ++ others).foldl (fun c a => a.leave now c) c).find? name)
        fingerprint? present newest done last ∧
      (done ≠ [] → c.lastGeneration.toNat < last.toNat) ∧ (done = [] → last = newest) := by
  obtain ⟨hdone, -, hcross⟩ := List.pairwise_append.mp hdistinct
  have hlength : first.length = done.length := by
    rw [← hrun.first_files, List.length_map]
  have hpairwise : first.Pairwise fun a b =>
      a.file.file.path.components ≠ b.file.file.path.components := by
    rwa [← hrun.first_files, List.pairwise_map] at hdone
  obtain ⟨last, hclean, -, hnewer⟩ := cleanRun_of_remembered now (hlength ▸ hroom)
    (fun a ha => ⟨(hrun.first_remembered a ha).1, (hrun.first_remembered a ha).2.1,
      (hrun.first_remembered a ha).2.2, hpresent _ (hrun.file_mem_done ha)⟩) hpairwise hnewest
  rw [hrun.first_files] at hclean
  refine ⟨last, hclean.congr fun f hf => ⟨?_, rfl, rfl⟩, fun hne => hnewer ?_, ?_⟩
  · rw [List.foldl_append]
    -- the other attempts are on other files
    refine Attempt.find?_foldl_leave now _ fun b hb hon => ?_
    exact hcross f hf _ (hrun.others_files b hb) hon.2.symm
  · rintro rfl
    exact hne hrun.first_files.symm
  · rintro rfl
    cases hclean
    rfl

end FrontRemembered

/-- **Behind a run, the plan is cut where it has stopped to compile one file after the other**. -/
theorem cutsAt_behind (hroom : c.lastGeneration.toNat + done.length < UInt64.size)
    (hnumbered : ∀ path e, c.find? name path = some e →
      e.generation.toNat ≤ c.lastGeneration.toNat)
    (hcut : CutsAt c name fingerprint? present files clean (done ++ rest) last)
    (hpresent : ∀ f ∈ files, present f.library = true)
    (hdistinct : files.Pairwise fun f g => f.path.components ≠ g.path.components)
    (hrun : FrontRemembered name fingerprint? done rest first others) :
    ∃ last', CutsAt ((first ++ others).foldl (fun c a => a.leave now c) c) name fingerprint?
      present files (clean ++ done) rest last' := by
  -- the clean files and the files to compile are different ones
  rw [hcut.append, List.pairwise_append] at hdistinct
  obtain ⟨-, hdistinct, hcross⟩ := hdistinct
  have hpresent' : ∀ f ∈ done, present f.library = true := fun f hf =>
    hpresent f (hcut.append ▸ List.mem_append_right _ (List.mem_append_left _ hf))
  obtain ⟨last', hclean, hnewer, hsame⟩ := hrun.cleanRun hroom hpresent' hdistinct
    (hcut.clean.last_le (Nat.zero_le _) hnumbered)
  refine ⟨last', ⟨?_, ?_, fun f hf e he => ?_⟩⟩
  · rw [List.append_assoc, hcut.append]
  · refine (hcut.clean.congr fun f hf => ⟨?_, rfl, rfl⟩).append hclean
    exact Attempt.find?_foldl_leave now c fun a ha hon =>
      hcross f hf _ (hrun.file_mem ha) hon.2.symm
  · have hbefore := hrun.find?_next hdistinct hf he.entry
    by_cases hdone : done = []
    · -- nothing has changed for the next file
      rw [hsame hdone] at he
      rw [hdone] at hcut
      exact hcut.not_clean f hf e ⟨hbefore, he.current, he.library, he.not_older⟩
    · -- what is remembered of the next file is older than the files that were compiled
      have hold := hnumbered f.path e hbefore
      have hnew := hnewer hdone
      have hle := UInt64.le_iff_toNat_le.mp he.not_older
      omega

end Resumed

/-! ## Plans of unchanged sources -/

namespace Catalog

variable {c : Catalog} {t t' : FileTree} {plan : BuildPlan}

/-- The facts are read from the files alone. -/
theorem scanFiles_congr {files : List SourceFile}
    (h : ∀ f ∈ files, t'.read f.path = t.read f.path) :
    scanFiles t' files = scanFiles t files := by
  induction files with
  | nil => rfl
  | cons f files ih =>
    rw [scanFiles, scanFiles, h f (List.mem_cons_self ..),
      ih fun g hg => h g (List.mem_cons_of_mem _ hg)]

theorem resolve_congr (h : ∀ f ∈ c.files, t'.read f.path = t.read f.path) :
    c.resolve t' = c.resolve t := by
  unfold resolve
  rw [scanFiles_congr h]

/-- A plan that is read from the files is a compile order of the catalog. -/
theorem Registered.compileOrder_resolve (hc : c.Registered) (h : c.resolve t = .ok plan) :
    ∃ facts, c.CompileOrder facts plan := by
  unfold resolve at h
  cases hfacts : scanFiles t c.files with
  | error e => simp [hfacts, bind, Except.bind] at h
  | ok facts =>
    rw [hfacts] at h
    exact ⟨facts, hc.compileOrder h⟩

/-- The files of a plan are those of the catalog. -/
theorem Registered.mem_plan (hc : c.Registered) (h : c.resolve t = .ok plan) {f : SourceFile} :
    f ∈ plan.files ↔ f ∈ c.files := by
  obtain ⟨facts, horder⟩ := hc.compileOrder_resolve h
  exact horder.perm_files.mem_iff

/-- The files of a plan are files of the catalog with different paths. -/
theorem Registered.pairwise_components (hc : c.Registered) (h : c.resolve t = .ok plan) :
    plan.files.Pairwise fun f g => f.path.components ≠ g.path.components := by
  obtain ⟨facts, horder⟩ := hc.compileOrder_resolve h
  have hnodup : plan.files.Nodup := horder.perm_files.nodup_iff.mpr hc.nodup_files
  refine List.Pairwise.imp_of_mem (fun {f g} hf hg hne hsame => ?_) hnodup
  exact hne (hc.eq_of_same_path (horder.perm_files.mem_iff.mp hf)
    (horder.perm_files.mem_iff.mp hg) (Path.same_iff.mpr hsame))

end Catalog

namespace Project

/-- The plan of a request is that of the catalog. -/
theorem resolve_of_planFor {p : Project} {b : Backend} {r : OperationRequest} {t : FileTree}
    {target : Option Target} {plan : BuildPlan} (h : p.planFor b r t = .ok (target, plan)) :
    p.catalog.resolve t = .ok plan := by
  unfold planFor at h
  cases htarget : targetOf r with
  | error e => simp [htarget, bind, Except.bind] at h
  | ok target' =>
    cases hcheck : preflight b r.kind (p.genericsOf r) with
    | error e => simp [htarget, hcheck, bind, Except.bind, Except.mapError] at h
    | ok u =>
      cases hplan : p.catalog.resolve t with
      | error e => simp [htarget, hcheck, hplan, bind, Except.bind, Except.mapError] at h
      | ok plan' =>
        simp only [htarget, hcheck, hplan, bind, Except.bind, Except.mapError, pure, Except.pure,
          Except.ok.injEq, Prod.mk.injEq] at h
        rw [h.2]

/-! ## Runs one behind the other -/

/-- **A compile or a simulation that comes to its phase** with a backend that compiles. -/
structure Compiles (p : Project) (r : OperationRequest) (cache : CacheContent) (t : FileTree)
    (ph : Phase) : Prop where
  /-- It has a phase. -/
  phase : p.phase r cache t = .ok ph
  /-- It is no synthesis. -/
  kind : r.kind ≠ .synthesize
  /-- Its backend compiles. -/
  supports : ph.backend.capabilities.supports .compile = true

/-- **Sources and compiled libraries that stand as before.** -/
structure Unchanged (p : Project) (b : Backend) (t t' : FileTree) : Prop where
  /-- Every source has the content that it had. -/
  sources : ∀ f ∈ p.catalog.files, t'.read f.path = t.read f.path
  /-- Every library is there if it was. -/
  libraries : ∀ f ∈ p.catalog.files,
    libraryPresent b p.options.simulationDir t' f.library =
      libraryPresent b p.options.simulationDir t f.library

/-- **Operations between two runs with a backend** that attempt no file with it: those of other
backends, and those that end before they come to a file. -/
inductive Interlude (name : String) : BuildCache → BuildCache → Prop
  /-- There are none. -/
  | none (cache : BuildCache) : Interlude name cache cache
  /-- One more operation. -/
  | operate {ρ : Type} {cache cache' : BuildCache} (h : Interlude name cache cache') (p : Project)
      (run : Runner ρ) (r : OperationRequest) (clock : Clock) (session : Session ρ)
      (hother : ∀ a ∈ p.attemptsOf run r clock cache' session, a.backend ≠ name) :
      Interlude name cache (p.operate run r clock cache' session).cache

/-- Between two runs with a backend its entries stay. -/
theorem Interlude.find?_eq {name : String} {cache cache' : BuildCache}
    (h : Interlude name cache cache') (path : Path) :
    cache'.content.find? name path = cache.content.find? name path := by
  induction h with
  | none => rfl
  | operate _ p run r clock session hother ih =>
    rw [content_operate, ← ih]
    exact Attempt.find?_foldl_leave _ _ fun a ha hon => hother a ha hon.1

variable {p : Project} {r : OperationRequest} {c : CacheContent} {t : FileTree} {ph : Phase}

/-- A run that is no synthesis works where compiles do. -/
theorem workDir_of_ne {o : BuildOptions} {op : Operation} (h : op ≠ .synthesize) :
    o.workDir op = o.simulationDir := by
  cases op with
  | synthesize => exact absurd rfl h
  | _ => rfl

/-- The decisions of a run are those of its cache on its plan. -/
theorem Compiles.filtered_eq (h : p.Compiles r c t ph) :
    ph.filtered = c.filter ph.plan ph.backend.name (fun f => (t.fingerprint f).toOption)
      (libraryPresent ph.backend p.options.simulationDir t) := by
  rw [(phase_eq_ok h.phase).2.2, filterFor_eq h.supports h.kind, workDir_of_ne h.kind]

theorem Compiles.resolve_eq (h : p.Compiles r c t ph) : p.catalog.resolve t = .ok ph.plan :=
  resolve_of_planFor (phase_eq_ok h.phase).2.1

/-- The files of the plan of a run are those of the catalog. -/
theorem Compiles.mem_files (hc : p.catalog.Registered) (h : p.Compiles r c t ph)
    {f : SourceFile} : f ∈ ph.plan.files ↔ f ∈ p.catalog.files :=
  hc.mem_plan h.resolve_eq

/-- **Where a run has stopped**: the first files to be compiled by a run of readable files passed
and were remembered, and the next one, if it was attempted, was not. -/
theorem Compiles.exists_frontRemembered {ρ : Type} {cache : BuildCache} {session : Session ρ}
    (h : p.Compiles r cache.content session.files ph)
    (hread : ∀ f ∈ ph.plan.files, ∃ fingerprint, session.files.fingerprint f.path = .ok fingerprint)
    (run : Runner ρ) (clock : Clock) :
    ∃ k ≤ ph.filtered.toBuild.length, ∃ first others,
      p.attemptsOf run r clock cache session = first ++ others ∧
      (p.operate run r clock cache session).outcome.compiled =
        (ph.filtered.toBuild.take k).map (·.file.path) ∧
      FrontRemembered ph.backend.name (fun f => (session.files.fingerprint f).toOption)
        ((ph.filtered.toBuild.take k).map (·.file)) ((ph.filtered.toBuild.drop k).map (·.file))
        first others := by
  obtain ⟨first, others, heq, hfirst, hothers, htake, hdrop⟩ :=
    exists_attempts_eq p run ph.backend r clock ph.filtered.toBuild (ph.start cache session)
  have hlength : first.length ≤ ph.filtered.toBuild.length := by
    have hcount := congrArg List.length htake
    rw [List.length_map, List.length_take] at hcount
    omega
  rw [attemptsOf_eq run clock h.phase, compiled_operate, attemptsOf_eq run clock h.phase]
  refine ⟨first.length, hlength, first, others, heq, ?_, ?_, fun a ha => ?_, fun a ha => ?_,
    fun a ha _ => ?_⟩
  · rw [heq, List.flatMap_append, Attempt.flatMap_credited_of_passed hfirst,
      Attempt.flatMap_credited_of_not_passed hothers, List.append_nil, ← htake, List.map_map]
    rfl
  · rw [← htake, List.map_map]
    rfl
  · obtain ⟨hbackend, -, hmem⟩ := mem_attempts (heq ▸ List.mem_append_left others ha)
    rw [h.filtered_eq] at hmem
    obtain ⟨hfile, hfingerprint⟩ := mem_toBuild_filter hmem
    obtain ⟨fingerprint, hfp⟩ := hread a.file.file hfile
    refine ⟨hbackend, ?_, hfingerprint.symm⟩
    simp [Attempt.isRemembered, hfirst a ha, hfingerprint, hfp, Except.toOption]
  · have hmem := List.mem_map_of_mem (f := Attempt.file) ha
    rw [hdrop] at hmem
    exact List.mem_map_of_mem (List.mem_of_mem_take hmem)
  · simp [Attempt.isRemembered, hothers a ha]

/-- Unchanged sources give the same plan. -/
theorem Compiles.plan_eq {r' : OperationRequest} {c' : CacheContent} {t' : FileTree} {ph' : Phase}
    (h : p.Compiles r c t ph) (h' : p.Compiles r' c' t' ph')
    (hunchanged : p.Unchanged ph.backend t t') : ph'.plan = ph.plan := by
  have hresolve := h'.resolve_eq
  rw [Catalog.resolve_congr hunchanged.sources, h.resolve_eq] at hresolve
  exact (Except.ok.inj hresolve).symm

/-- A file with the same content has the same fingerprint. -/
theorem fingerprint_congr {t t' : FileTree} {path : Path} (h : t'.read path = t.read path) :
    t'.fingerprint path = t.fingerprint path := by
  unfold FileTree.fingerprint
  rw [h]

/-- What a run knows of its files is what an earlier run with its backend has left, when nothing has
changed in between. -/
theorem Compiles.agreeOn {r' : OperationRequest} {c' : CacheContent} {t' : FileTree} {ph' : Phase}
    (hc : p.catalog.Registered) (h' : p.Compiles r' c' t' ph') {cache cache' : BuildCache}
    (hinterlude : Interlude ph.backend.name cache cache') (hunchanged : p.Unchanged ph.backend t t')
    (hbackend : ph'.backend = ph.backend) : ∀ f ∈ ph'.plan.files, AgreeOn
      (cache.content.find? ph.backend.name) (cache'.content.find? ph'.backend.name)
      (fun f => (t.fingerprint f).toOption) (fun f => (t'.fingerprint f).toOption)
      (libraryPresent ph.backend p.options.simulationDir t)
      (libraryPresent ph'.backend p.options.simulationDir t') f := by
  intro f hf
  have hmem := (h'.mem_files hc).mp hf
  rw [hbackend]
  refine ⟨hinterlude.find?_eq f.path, ?_, hunchanged.libraries f hmem⟩
  simp only [fingerprint_congr (hunchanged.sources f hmem)]

/-- **Behind a run of readable files its plan is cut where it has stopped**: the files that it was
to compile and has not compiled with success are left. -/
theorem Compiles.exists_cutsAt {ρ : Type} {cache : BuildCache} {session : Session ρ} {n : Nat}
    (hc : p.catalog.Registered) (hreach : cache.content.Reachable n)
    (h : p.Compiles r cache.content session.files ph)
    (hread : ∀ f ∈ ph.plan.files, ∃ fingerprint, session.files.fingerprint f.path = .ok fingerprint)
    (hlibraries : ∀ f ∈ ph.plan.files,
      libraryPresent ph.backend p.options.simulationDir session.files f.library = true)
    (hroom : n + ph.filtered.toBuild.length < UInt64.size) (run : Runner ρ) (clock : Clock) :
    ∃ k ≤ ph.filtered.toBuild.length,
      (p.operate run r clock cache session).outcome.compiled =
        (ph.filtered.toBuild.take k).map (·.file.path) ∧
      ∃ clean last, CutsAt (p.operate run r clock cache session).cache.content ph.backend.name
        (fun f => (session.files.fingerprint f).toOption)
        (libraryPresent ph.backend p.options.simulationDir session.files) ph.plan.files clean
        ((ph.filtered.toBuild.drop k).map (·.file)) last := by
  obtain ⟨clean, rest, last, hcut⟩ := CacheContent.exists_cutsAt cache.content ph.backend.name
    (fun f => (session.files.fingerprint f).toOption)
    (libraryPresent ph.backend p.options.simulationDir session.files) ph.plan.files
  have hrest : ph.filtered.toBuild.map (·.file) = rest := by
    rw [h.filtered_eq, hcut.toBuild_filter, map_file_decideAll]
  obtain ⟨k, hk, first, others, heq, hcompiled, hrun⟩ := h.exists_frontRemembered hread run clock
  obtain ⟨hlast, hentries⟩ := hreach.generation_le (by omega)
  rw [← hrest, ← List.take_append_drop k (ph.filtered.toBuild.map (·.file)), ← List.map_take,
    ← List.map_drop] at hcut
  have hroom' : cache.content.lastGeneration.toNat +
      ((ph.filtered.toBuild.take k).map (·.file)).length < UInt64.size := by
    rw [List.length_map, List.length_take]
    omega
  obtain ⟨last', hcut'⟩ := cutsAt_behind hroom' (hentries _) hcut hlibraries
    (hc.pairwise_components h.resolve_eq) hrun
  rw [← heq, ← content_operate] at hcut'
  exact ⟨k, hk, hcompiled, _, last', hcut'⟩

/-- **Exact resumption.** When a compile or a simulation of readable files, whose libraries are
there, has compiled `k` files with success, these are the first `k` of those that it was to compile,
and the next compile or simulation with its backend that comes to its phase is to compile exactly
the others, in their order, however the first one ended and whatever operations of other backends
came in between. After a run that has compiled all of them nothing is compiled, and every file of
the plan is skipped. -/
theorem resume_exact {ρ ρ' : Type} {cache cache' : BuildCache} {session : Session ρ}
    {session' : Session ρ'} {r' : OperationRequest} {ph' : Phase} {n : Nat}
    (hc : p.catalog.Registered) (hreach : cache.content.Reachable n)
    (h : p.Compiles r cache.content session.files ph)
    (hread : ∀ f ∈ ph.plan.files, ∃ fingerprint, session.files.fingerprint f.path = .ok fingerprint)
    (hlibraries : ∀ f ∈ ph.plan.files,
      libraryPresent ph.backend p.options.simulationDir session.files f.library = true)
    (hroom : n + ph.filtered.toBuild.length < UInt64.size) (run : Runner ρ) (clock : Clock)
    (hinterlude : Interlude ph.backend.name (p.operate run r clock cache session).cache cache')
    (hunchanged : p.Unchanged ph.backend session.files session'.files)
    (h' : p.Compiles r' cache'.content session'.files ph') (hbackend : ph'.backend = ph.backend)
    (run' : Runner ρ') (clock' : Clock) :
    ∃ k ≤ ph.filtered.toBuild.length,
      (p.operate run r clock cache session).outcome.compiled =
        (ph.filtered.toBuild.take k).map (·.file.path) ∧
      ph'.filtered.toBuild.map (·.file) = (ph.filtered.toBuild.drop k).map (·.file) ∧
      (k = ph.filtered.toBuild.length →
        (p.operate run' r' clock' cache' session').outcome.compiled = [] ∧
        (p.operate run' r' clock' cache' session').outcome.skipped =
          ph.plan.files.map (·.path)) := by
  obtain ⟨k, hk, hcompiled, clean, last, hcut⟩ :=
    h.exists_cutsAt hc hreach hread hlibraries hroom run clock
  have hplan := h.plan_eq h' hunchanged
  rw [← hplan] at hcut
  have hcut' := hcut.congr (h'.agreeOn hc hinterlude hunchanged hbackend)
  have htoBuild := hcut'.toBuild_filter
  have hskipped := hcut'.skipped_filter
  rw [← h'.filtered_eq] at htoBuild hskipped
  refine ⟨k, hk, hcompiled, ?_, fun hall => ?_⟩
  · rw [htoBuild, map_file_decideAll]
  · -- nothing is left to compile, so that all files of the plan are clean
    have hnil : ph.filtered.toBuild.drop k = [] := List.drop_eq_nil_of_le (by omega)
    rw [hnil, List.map_nil] at htoBuild hcut'
    rw [compiled_operate, attemptsOf_eq run' clock' h'.phase, htoBuild,
      skipped_operate run' clock' h'.phase, hskipped, List.map_map, ← hplan, hcut'.append,
      List.append_nil]
    exact ⟨rfl, rfl⟩

/-! ## A project of two files -/

/-- A runner that exits with the codes of its state, one after the other. -/
def codeRunner : Runner (List Int) := fun _ s =>
  (.ok ⟨.exited (s.runner.head?.getD 0), "", "", ⟨0, 0⟩⟩, { s with runner := s.runner.tail })

/-- A project of two files, with one backend in both roles. -/
def pair : Project where
  catalog := ⟨⟨"/p"⟩, pairPlan.files, [], .empty⟩
  registry := BackendRegistry.register {} (steadyBackend "sim")
  options := { BuildOptions.ofRoot ⟨"/p"⟩ with simulator := some "sim", synthesizer := some "sim" }

/-- The files of the project, which are empty. -/
def pairFiles : FileTree :=
  ⟨[(["p"], .directory), (["p", "a.v"], .file ⟨#[]⟩ false), (["p", "b.v"], .file ⟨#[]⟩ false)], []⟩

theorem registered_pair : pair.catalog.Registered :=
  .register (.register (.empty ⟨"/p"⟩) ⟨"a.v"⟩ "work" {} rfl) ⟨"b.v"⟩ "work" {} rfl

/-- The phase of a compile of the project. -/
def pairPhase (c : CacheContent) : Phase where
  backend := steadyBackend "sim"
  target := none
  plan := pairPlan
  filtered := c.filter pairPlan "sim" (fun f => (pairFiles.fingerprint f).toOption) fun _ => true

theorem compiles_pair (c : CacheContent) :
    pair.Compiles ⟨.compile, none, none, {}⟩ c pairFiles (pairPhase c) where
  phase := rfl
  kind := by simp
  supports := rfl

/-- A session in which the runs exit with some codes. -/
def pairSession (codes : List Int) : Session (List Int) := ⟨pairFiles, false, codes⟩

/-- A compile of the project. -/
def runPair (cache : BuildCache) (codes : List Int) : Progress (List Int) :=
  pair.operate codeRunner ⟨.compile, none, none, {}⟩ ⟨⟨"now"⟩, "now"⟩ cache (pairSession codes)

theorem fingerprint_pair (codes : List Int) : ∀ f ∈ pairPlan.files,
    ∃ fingerprint, (pairSession codes).files.fingerprint f.path = .ok fingerprint := by
  intro f hf
  rcases List.mem_cons.mp hf with rfl | hf
  · exact ⟨_, rfl⟩
  · obtain rfl := List.mem_singleton.mp hf
    exact ⟨_, rfl⟩

/-- When the second of two files fails, the next run is to compile that file. -/
theorem resume_exact_pair :
    (runPair .inMemory [0, 1]).outcome.compiled = [⟨"/p/a.v"⟩] ∧
      (pairPhase (runPair .inMemory [0, 1]).cache.content).filtered.toBuild.map (·.file.path) =
        [⟨"/p/b.v"⟩] := by
  have hcompiled : (runPair .inMemory [0, 1]).outcome.compiled = [⟨"/p/a.v"⟩] := by decide +kernel
  have hpaths : (pairPhase {}).filtered.toBuild.map (·.file.path) = [⟨"/p/a.v"⟩, ⟨"/p/b.v"⟩] := by
    decide +kernel
  have hlength : (pairPhase {}).filtered.toBuild.length = 2 := by
    simpa using congrArg List.length hpaths
  have hroom : 0 + (pairPhase {}).filtered.toBuild.length < UInt64.size := by
    rw [hlength]
    decide
  refine ⟨hcompiled, ?_⟩
  -- the cache behind the first run is named, since it is not to be computed
  obtain ⟨cache', hcache'⟩ : ∃ cache', cache' = (runPair .inMemory [0, 1]).cache := ⟨_, rfl⟩
  have hinterlude : Interlude (pairPhase {}).backend.name (runPair .inMemory [0, 1]).cache cache' :=
    hcache' ▸ .none _
  have hfirst : pair.Compiles ⟨.compile, none, none, {}⟩ BuildCache.inMemory.content
      (pairSession [0, 1]).files (pairPhase {}) := compiles_pair {}
  have hsecond : pair.Compiles ⟨.compile, none, none, {}⟩ cache'.content (pairSession []).files
      (pairPhase cache'.content) := compiles_pair cache'.content
  have hunchanged : pair.Unchanged (pairPhase {}).backend (pairSession [0, 1]).files
      (pairSession []).files := ⟨fun _ _ => rfl, fun _ _ => rfl⟩
  obtain ⟨k, -, htake, hdrop, -⟩ := resume_exact registered_pair .empty hfirst
    (fingerprint_pair [0, 1]) (fun _ _ => rfl) hroom codeRunner ⟨⟨"now"⟩, "now"⟩ hinterlude
    hunchanged hsecond rfl codeRunner ⟨⟨"now"⟩, "now"⟩
  -- as many files were compiled as the outcome says
  have hone : k = 1 := by
    have hk := congrArg List.length (hcompiled.symm.trans htake)
    rw [List.length_map, List.length_take, hlength, List.length_singleton] at hk
    omega
  have hrest := congrArg (List.map SourceFile.path) hdrop
  rw [List.map_map, List.map_map, hone, List.map_drop] at hrest
  rw [← hcache']
  exact hrest.trans (congrArg (List.drop 1) hpaths)

end Project

end RtlFlow
