import RtlFlow.Proofs.Build.WorkDirectory

/-! # Synthesizing a second time

The decisions of a synthesis are made on the whole plan, and the files that take no part in it are
left out only afterwards. A file that is left out and would have to be compiled is still so the next
time, and all files behind it are then compiled once more. A second synthesis therefore compiles
nothing exactly when no such file stood before one that takes part (`Project.second_synthesis`).
That this can fail is shown by `Project.not_forall_second_synthesis`. -/

namespace RtlFlow

open OperationStep CacheContent

namespace Project

variable {ρ : Type} {p : Project} {r : OperationRequest} {c : CacheContent} {t : FileTree}
  {ph : Phase}

/-! ## The decisions of a synthesis -/

/-- **A synthesis that comes to its phase** with a backend that compiles. -/
structure Synthesizes (p : Project) (r : OperationRequest) (c : CacheContent) (t : FileTree)
    (ph : Phase) : Prop where
  /-- It has a phase. -/
  phase : p.phase r c t = .ok ph
  /-- It is a synthesis. -/
  kind : r.kind = .synthesize
  /-- Its backend compiles. -/
  supports : ph.backend.capabilities.supports .compile = true

/-- **The decisions on the whole plan** of a synthesis. -/
def wholeFilter (p : Project) (ph : Phase) (c : CacheContent) (t : FileTree) : FilteredPlan :=
  c.filter ph.plan ph.backend.name (fun f => (t.fingerprint f).toOption)
    (libraryPresent ph.backend p.options.synthesisDir t)

/-- **The files that would have to be compiled**, those that take no part among them. -/
def demanded (p : Project) (ph : Phase) (c : CacheContent) (t : FileTree) : List SourceFile :=
  (p.wholeFilter ph c t).toBuild.map (·.file)

/-- **The files that are compiled once more**: those that take part and stand behind one that takes
no part, among those that would have to be compiled. -/
def compiledAgain (p : Project) (ph : Phase) (c : CacheContent) (t : FileTree) : List SourceFile :=
  ((p.demanded ph c t).dropWhile (·.synthesize)).filter (·.synthesize)

theorem Synthesizes.filtered_eq (h : p.Synthesizes r c t ph) :
    ph.filtered = (p.wholeFilter ph c t).synthesisOnly := by
  rw [(phase_eq_ok h.phase).2.2, filterFor, if_pos h.supports, h.kind, if_pos rfl]
  rfl

/-- The files that a synthesis compiles are those that take part among those that would have to be
compiled. -/
theorem Synthesizes.toBuild_eq (h : p.Synthesizes r c t ph) :
    ph.filtered.toBuild.map (·.file) = (p.demanded ph c t).filter (·.synthesize) := by
  rw [h.filtered_eq, demanded, List.filter_map]
  unfold FilteredPlan.toBuild FilteredPlan.synthesisOnly
  rw [List.filter_comm]
  rfl

/-- The files that a synthesis skips are those that take part among those that need no compile. -/
theorem Synthesizes.skipped_eq (h : p.Synthesizes r c t ph) :
    ph.filtered.skipped.map (·.file) =
      ((p.wholeFilter ph c t).skipped.map (·.file)).filter (·.synthesize) := by
  rw [h.filtered_eq, List.filter_map]
  unfold FilteredPlan.skipped FilteredPlan.synthesisOnly
  rw [List.filter_comm]
  rfl

/-- Unchanged sources have the phase that they had, with new decisions. -/
theorem phase_congr {c' : CacheContent} {t' : FileTree} (h : p.phase r c t = .ok ph)
    (hsources : ∀ f ∈ p.catalog.files, t'.read f.path = t.read f.path) :
    p.phase r c' t' =
      .ok { ph with filtered := p.filterFor ph.backend r.kind ph.plan c' t' } := by
  obtain ⟨hbackend, hplan, -⟩ := phase_eq_ok h
  have hplan' : p.planFor ph.backend r t' = .ok (ph.target, ph.plan) := by
    unfold planFor at hplan ⊢
    rw [Catalog.resolve_congr hsources, hplan]
  unfold phase
  rw [hbackend]
  simp only [bind, Except.bind, hplan', pure, Except.pure]

/-! ## The cache behind a synthesis -/

/-- **What a synthesis that succeeds has remembered**: the files that would have to be compiled up
to the first one that takes no part, and files behind that one. -/
theorem Synthesizes.exists_frontRemembered {cache : BuildCache} {session : Session ρ}
    (h : p.Synthesizes r cache.content session.files ph)
    (hread : ∀ f ∈ ph.plan.files, ∃ fingerprint, session.files.fingerprint f.path = .ok fingerprint)
    (run : Runner ρ) (clock : Clock)
    (hsucceeded : (p.operate run r clock cache session).outcome.succeeded = true) :
    ∃ first others, p.attemptsOf run r clock cache session = first ++ others ∧
      FrontRemembered ph.backend.name (fun f => (session.files.fingerprint f).toOption)
        ((p.demanded ph cache.content session.files).takeWhile (·.synthesize))
        ((p.demanded ph cache.content session.files).dropWhile (·.synthesize)) first others := by
  obtain ⟨hfiles, hpassed⟩ := attempts_of_succeeded run clock h.phase hsucceeded
  have hall : (p.attemptsOf run r clock cache session).map (·.file.file) =
      (p.demanded ph cache.content session.files).filter (·.synthesize) := by
    rw [← h.toBuild_eq, ← hfiles, List.map_map]
    rfl
  -- the attempts are cut where the first file stands that takes no part
  rw [← List.takeWhile_append_dropWhile (p := (·.synthesize))
    (l := p.demanded ph cache.content session.files), List.filter_append,
    List.filter_eq_self.mpr (List.all_eq_true.mp List.all_takeWhile)] at hall
  obtain ⟨first, others, heq, hfirst, hothers⟩ := List.map_eq_append_iff.mp hall
  refine ⟨first, others, heq, hfirst, fun a ha => ?_, fun a ha => ?_, fun a ha hnext => ?_⟩
  · -- each was a success on a file with a fingerprint
    have hmem : a ∈ p.attemptsOf run r clock cache session := heq ▸ List.mem_append_left _ ha
    obtain ⟨b, hb, hbackend, -, hfingerprint⟩ := mem_attemptsOf hmem
    obtain rfl : b = ph.backend :=
      Except.ok.inj (hb.symm.trans (phase_eq_ok h.phase).1)
    have hplanned : a.file ∈ ph.filtered.toBuild := hfiles ▸ List.mem_map_of_mem hmem
    obtain ⟨fingerprint, hfp⟩ :=
      hread _ (file_mem_plan h.phase (List.mem_of_mem_filter hplanned))
    refine ⟨hbackend, ?_, hfingerprint.symm⟩
    simp [Attempt.isRemembered, hpassed a hmem, hfingerprint, hfp, Except.toOption]
  · have hmem : a.file.file ∈ others.map (·.file.file) := List.mem_map_of_mem ha
    rw [hothers] at hmem
    exact List.mem_of_mem_filter hmem
  · -- a file that was attempted takes part, and the next one does not
    have hmem : a.file.file ∈ others.map (·.file.file) := List.mem_map_of_mem ha
    rw [hothers] at hmem
    have htakes := (List.mem_filter.mp hmem).2
    have hnot := List.head?_dropWhile_not (·.synthesize) (p.demanded ph cache.content session.files)
    rw [Option.mem_def.mp hnext] at hnot
    rw [hnot] at htakes
    simp at htakes

/-- Attempts are made when there are files to compile. -/
theorem attempts_eq_nil_iff {run : Runner ρ} {b : Backend} {clock : Clock}
    {files : List PlannedFile} {q : Progress ρ} :
    p.attempts run b r clock files q = [] ↔ files = [] := by
  cases files with
  | nil => simp [attempts]
  | cons f files => simp [attempts_cons]

/-- **Behind a synthesis that succeeds the plan is cut** where the first file stands that would have
to be compiled and takes no part. -/
theorem Synthesizes.exists_cutsAt {cache : BuildCache} {session : Session ρ}
    (hc : p.catalog.Registered) (h : p.Synthesizes r cache.content session.files ph)
    (hread : ∀ f ∈ ph.plan.files, ∃ fingerprint, session.files.fingerprint f.path = .ok fingerprint)
    (hlibraries : ∀ f ∈ ph.plan.files,
      libraryPresent ph.backend p.options.synthesisDir session.files f.library = true)
    (hnumbered : ∀ path e, cache.content.find? ph.backend.name path = some e →
      e.generation.toNat ≤ cache.content.lastGeneration.toNat)
    (hroom : cache.content.lastGeneration.toNat + ph.plan.files.length < UInt64.size)
    (run : Runner ρ) (clock : Clock)
    (hsucceeded : (p.operate run r clock cache session).outcome.succeeded = true) :
    ∃ clean last, CutsAt (p.operate run r clock cache session).cache.content ph.backend.name
      (fun f => (session.files.fingerprint f).toOption)
      (libraryPresent ph.backend p.options.synthesisDir session.files) ph.plan.files clean
      ((p.demanded ph cache.content session.files).dropWhile (·.synthesize)) last := by
  obtain ⟨first, others, heq, hfront⟩ := h.exists_frontRemembered hread run clock hsucceeded
  obtain ⟨clean, rest, last, hcut⟩ := CacheContent.exists_cutsAt cache.content ph.backend.name
    (fun f => (session.files.fingerprint f).toOption)
    (libraryPresent ph.backend p.options.synthesisDir session.files) ph.plan.files
  have hdemanded : p.demanded ph cache.content session.files = rest := by
    rw [demanded, wholeFilter, hcut.toBuild_filter, map_file_decideAll]
  have hlength := congrArg List.length hcut.append
  rw [List.length_append] at hlength
  rw [hdemanded] at hfront ⊢
  rw [← List.takeWhile_append_dropWhile (p := (·.synthesize)) (l := rest)] at hcut
  have hroom' : cache.content.lastGeneration.toNat + (rest.takeWhile (·.synthesize)).length <
      UInt64.size := by
    have htake := (List.takeWhile_sublist (l := rest) (·.synthesize)).length_le
    omega
  obtain ⟨last', hcut'⟩ := cutsAt_behind hroom' hnumbered hcut hlibraries
    (hc.pairwise_components (resolve_of_planFor (phase_eq_ok h.phase).2.1)) hfront
  rw [← heq, ← content_operate] at hcut'
  exact ⟨_, last', hcut'⟩

/-- **Synthesizing a second time.** After a synthesis of readable files, whose libraries are there,
has succeeded, the same synthesis of the same sources compiles the files of `compiledAgain`. There
is none of these exactly when the second synthesis compiles nothing and skips all files that take
part. -/
theorem second_synthesis {ρ' : Type} {cache : BuildCache} {session : Session ρ}
    {session' : Session ρ'} (hc : p.catalog.Registered)
    (h : p.Synthesizes r cache.content session.files ph)
    (hread : ∀ f ∈ ph.plan.files, ∃ fingerprint, session.files.fingerprint f.path = .ok fingerprint)
    (hlibraries : ∀ f ∈ ph.plan.files,
      libraryPresent ph.backend p.options.synthesisDir session.files f.library = true)
    (hnumbered : ∀ path e, cache.content.find? ph.backend.name path = some e →
      e.generation.toNat ≤ cache.content.lastGeneration.toNat)
    (hroom : cache.content.lastGeneration.toNat + ph.plan.files.length < UInt64.size)
    (run : Runner ρ) (clock : Clock)
    (hsucceeded : (p.operate run r clock cache session).outcome.succeeded = true)
    (hsources : ∀ f ∈ p.catalog.files, session'.files.read f.path = session.files.read f.path)
    (hlibraries' : ∀ f ∈ ph.plan.files,
      libraryPresent ph.backend p.options.synthesisDir session'.files f.library = true)
    (run' : Runner ρ') (clock' : Clock) {cache' : BuildCache}
    (hcache : cache' = (p.operate run r clock cache session).cache) :
    ∃ ph', p.phase r cache'.content session'.files = .ok ph' ∧
      ph'.filtered.toBuild.map (·.file) = p.compiledAgain ph cache.content session.files ∧
      (p.compiledAgain ph cache.content session.files = [] ↔
        p.attemptsOf run' r clock' cache' session' = [] ∧
          (p.operate run' r clock' cache' session').outcome.skipped =
            (ph.plan.files.filter (·.synthesize)).map (·.path)) := by
  obtain ⟨clean, last, hcut⟩ := h.exists_cutsAt hc hread hlibraries hnumbered hroom run clock
    hsucceeded
  rw [← hcache] at hcut
  obtain ⟨ph', hphase', hbackend, hplan⟩ : ∃ ph', p.phase r cache'.content session'.files =
      .ok ph' ∧ ph'.backend = ph.backend ∧ ph'.plan = ph.plan :=
    ⟨_, phase_congr h.phase hsources, rfl, rfl⟩
  have h' : p.Synthesizes r cache'.content session'.files ph' :=
    ⟨hphase', h.kind, hbackend ▸ h.supports⟩
  have hcut' : CutsAt cache'.content ph'.backend.name
      (fun f => (session'.files.fingerprint f).toOption)
      (libraryPresent ph'.backend p.options.synthesisDir session'.files) ph'.plan.files clean
      ((p.demanded ph cache.content session.files).dropWhile (·.synthesize)) last := by
    rw [hbackend, hplan]
    refine hcut.congr fun f hf => ⟨rfl, ?_, (hlibraries' f hf).trans (hlibraries f hf).symm⟩
    have hmem := (hc.mem_plan (resolve_of_planFor (phase_eq_ok h.phase).2.1)).mp hf
    simp only [fingerprint_congr (hsources f hmem)]
  have hbuild : ph'.filtered.toBuild.map (·.file) =
      p.compiledAgain ph cache.content session.files := by
    rw [h'.toBuild_eq, demanded, wholeFilter, hcut'.toBuild_filter, map_file_decideAll]
    rfl
  have hskip : ph'.filtered.skipped.map (·.file) = clean.filter (·.synthesize) := by
    rw [h'.skipped_eq, wholeFilter, hcut'.skipped_filter, List.map_map]
    exact congrArg _ (List.map_id clean)
  have hflagged : ph.plan.files.filter (·.synthesize) =
      clean.filter (·.synthesize) ++ p.compiledAgain ph cache.content session.files := by
    rw [hcut.append, List.filter_append]
    rfl
  have hattempts : p.attemptsOf run' r clock' cache' session' = [] ↔
      p.compiledAgain ph cache.content session.files = [] := by
    rw [attemptsOf_eq run' clock' hphase', attempts_eq_nil_iff, ← hbuild, List.map_eq_nil_iff]
  refine ⟨ph', hphase', hbuild, fun hnone => ⟨hattempts.mpr hnone, ?_⟩,
    fun hnothing => hattempts.mp hnothing.1⟩
  rw [skipped_operate run' clock' hphase', hflagged, hnone, List.append_nil, ← hskip, List.map_map]
  rfl

/-! ## Projects of two files -/

/-- The request for a synthesis. -/
def synthesisRequest : OperationRequest := ⟨.synthesize, some "work.top", none, {}⟩

/-- The phase of a synthesis of the project of two files that take part. -/
def pairSynthesis (c : CacheContent) : Phase where
  backend := steadyBackend "sim"
  target := some ⟨"work", "top"⟩
  plan := pairPlan
  filtered := pair.filterFor (steadyBackend "sim") .synthesize pairPlan c pairFiles

theorem synthesizes_pair (c : CacheContent) :
    pair.Synthesizes synthesisRequest c pairFiles (pairSynthesis c) where
  phase := rfl
  kind := rfl
  supports := rfl

/-- When all files take part, the second synthesis compiles nothing. -/
theorem second_synthesis_pair : ∃ cache',
    cache' = (pair.operate codeRunner synthesisRequest ⟨⟨"now"⟩, "now"⟩ .inMemory
      (pairSession [])).cache ∧
    pair.attemptsOf codeRunner synthesisRequest ⟨⟨"now"⟩, "now"⟩ cache' (pairSession []) = [] ∧
    (pair.operate codeRunner synthesisRequest ⟨⟨"now"⟩, "now"⟩ cache'
      (pairSession [])).outcome.skipped = [⟨"/p/a.v"⟩, ⟨"/p/b.v"⟩] := by
  have hsucceeded : (pair.operate codeRunner synthesisRequest ⟨⟨"now"⟩, "now"⟩ .inMemory
      (pairSession [])).outcome.succeeded = true := by decide +kernel
  have hnone : pair.compiledAgain (pairSynthesis {}) BuildCache.inMemory.content
      (pairSession []).files = [] := by decide +kernel
  have hfirst : pair.Synthesizes synthesisRequest BuildCache.inMemory.content
      (pairSession []).files (pairSynthesis {}) := synthesizes_pair {}
  -- the cache behind the first synthesis is named, since it is not to be computed
  obtain ⟨cache', hcache'⟩ : ∃ cache', cache' = (pair.operate codeRunner synthesisRequest
    ⟨⟨"now"⟩, "now"⟩ .inMemory (pairSession [])).cache := ⟨_, rfl⟩
  obtain ⟨ph', -, -, hiff⟩ := second_synthesis registered_pair hfirst (fingerprint_pair [])
    (fun _ _ => rfl) (fun _ _ h => by simp [BuildCache.inMemory] at h) (by decide) codeRunner
    ⟨⟨"now"⟩, "now"⟩ hsucceeded (fun _ _ => rfl) (fun _ _ => rfl) codeRunner ⟨⟨"now"⟩, "now"⟩
    hcache'
  obtain ⟨hattempts, hskipped⟩ := hiff.mp hnone
  exact ⟨cache', hcache', hattempts, hskipped⟩

/-- The plan of a file that takes no part and one that does. -/
def benchPlan : BuildPlan :=
  ⟨[⟨"work", [⟨⟨"/p/a.v"⟩, "work", .verilog, false, .empty, [], []⟩,
    ⟨⟨"/p/b.v"⟩, "work", .verilog, true, .empty, [], []⟩]⟩]⟩

/-- The project of these files. -/
def bench : Project where
  catalog := ⟨⟨"/p"⟩, benchPlan.files, [], .empty⟩
  registry := pair.registry
  options := pair.options

/-- The phase of a synthesis of that project. -/
def benchSynthesis (c : CacheContent) : Phase where
  backend := steadyBackend "sim"
  target := some ⟨"work", "top"⟩
  plan := benchPlan
  filtered := bench.filterFor (steadyBackend "sim") .synthesize benchPlan c pairFiles

theorem registered_bench : bench.catalog.Registered :=
  .register (.register (.empty ⟨"/p"⟩) ⟨"a.v"⟩ "work" { synthesize := false } rfl) ⟨"b.v"⟩ "work" {}
    rfl

theorem synthesizes_bench (c : CacheContent) :
    bench.Synthesizes synthesisRequest c pairFiles (benchSynthesis c) where
  phase := rfl
  kind := rfl
  supports := rfl

/-- **A synthesis is not always idempotent**: when the first of two files takes no part, the second
one is compiled each time. -/
theorem not_forall_second_synthesis :
    ¬ ∀ (ρ : Type) (p : Project) (run : Runner ρ) (r : OperationRequest) (clock : Clock)
      (cache : BuildCache) (session : Session ρ) (ph : Phase) (q : Progress ρ),
        p.catalog.Registered → p.Synthesizes r cache.content session.files ph →
          (∀ f ∈ ph.plan.files,
            ∃ fingerprint, session.files.fingerprint f.path = .ok fingerprint) →
          (∀ f ∈ ph.plan.files,
            libraryPresent ph.backend p.options.synthesisDir session.files f.library = true) →
          p.operate run r clock cache session = q → q.outcome.succeeded = true →
            (p.operate run r clock q.cache q.session).outcome.compiled = [] := by
  intro h
  have hruns : ∃ q, bench.operate codeRunner synthesisRequest ⟨⟨"now"⟩, "now"⟩ .inMemory
      (pairSession []) = q ∧ q.outcome.succeeded = true ∧
      (bench.operate codeRunner synthesisRequest ⟨⟨"now"⟩, "now"⟩ q.cache
        q.session).outcome.compiled = [⟨"/p/b.v"⟩] :=
    ⟨_, rfl, by decide +kernel, by decide +kernel⟩
  obtain ⟨q, hq, hsucceeded, hcompiled⟩ := hruns
  have hread : ∀ f ∈ benchPlan.files,
      ∃ fingerprint, (pairSession []).files.fingerprint f.path = .ok fingerprint := by
    intro f hf
    rcases List.mem_cons.mp hf with rfl | hf
    · exact ⟨_, rfl⟩
    · obtain rfl := List.mem_singleton.mp hf
      exact ⟨_, rfl⟩
  have hnone := h _ bench codeRunner synthesisRequest ⟨⟨"now"⟩, "now"⟩ .inMemory (pairSession [])
    _ q registered_bench (synthesizes_bench _) hread (fun _ _ => rfl) hq hsucceeded
  rw [hcompiled] at hnone
  simp at hnone

end Project

end RtlFlow
