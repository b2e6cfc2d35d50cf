import RtlFlow.Proofs.Build.Calls
import RtlFlow.Proofs.Build.WorkDirectory

/-! # What an operation changes in the cache

Whatever an operation is asked for and however it ends, it changes the cache in one way only: every
file that it reports as compiled is remembered, in the order in which they were compiled, and then
the file whose compile has failed, if there is one, is forgotten (`Project.cache_frame`). Files that
were skipped, a file whose compile was cancelled or could not be started, and all that is remembered
for other backends stay as they are. -/

namespace RtlFlow

open OperationStep CacheContent

namespace CacheContent

variable {c : CacheContent} {name : String} {path : Path}

/-- What is remembered of other files stays when a file is remembered. -/
theorem find?_remember_of_ne {b : Backend} {now : Timestamp} {f : PlannedFile} (x : Call)
    (h : name = b.name → f.file.path.components ≠ path.components) :
    (x.remember b now f c).find? name path = c.find? name path := by
  unfold Call.remember CacheContent.remember
  cases x.reply with
  | error e => rfl
  | ok result =>
    cases f.fingerprint with
    | none => rfl
    | some fingerprint =>
      simp only [find?_record]
      exact if_neg fun hsame => h hsame.1 hsame.2.symm

/-- What is remembered of other files stays when a file is forgotten. -/
theorem find?_forget_of_ne {b : Backend} {f : PlannedFile}
    (h : name = b.name → f.file.path.components ≠ path.components) :
    (c.forget b.name f.file.path).find? name path = c.find? name path := by
  rw [find?_forget]
  exact if_neg fun hsame => h hsame.1 hsame.2.symm

/-- What every step keeps is kept by all of them. -/
theorem find?_foldl_of_eq {α : Type} {step : CacheContent → α → CacheContent} {xs : List α}
    (h : ∀ x ∈ xs, ∀ c, (step c x).find? name path = c.find? name path) (c : CacheContent) :
    (xs.foldl step c).find? name path = c.find? name path := by
  induction xs generalizing c with
  | nil => rfl
  | cons x xs ih =>
    rw [List.foldl_cons, ih fun y hy => h y (List.mem_cons_of_mem _ hy)]
    exact h x (List.mem_cons_self ..) c

end CacheContent

namespace Project

variable {ρ : Type} {p : Project} {b : Backend} {r : OperationRequest} {cache : BuildCache}
  {session : Session ρ} {now : Timestamp}

/-! ## What calls leave -/

/-- Calls that have passed are remembered. -/
theorem foldl_leave_of_passes {xs : List (PlannedFile × Call)}
    (h : ∀ x ∈ xs, x.2.passes b = true) (c : CacheContent) :
    xs.foldl (fun c x => x.2.leave b now x.1 c) c =
      xs.foldl (fun c x => x.2.remember b now x.1 c) c := by
  refine List.foldl_ext _ _ _ fun c x hx => ?_
  exact if_pos (h x hx)

/-- Of calls that have not passed, the files of those that have failed are forgotten. -/
theorem foldl_leave_of_not_passes {xs : List (PlannedFile × Call)}
    (h : ∀ x ∈ xs, x.2.passes b = false) (c : CacheContent) :
    xs.foldl (fun c x => x.2.leave b now x.1 c) c =
      (xs.filter fun x => x.2.fails b).foldl (fun c x => c.forget b.name x.1.file.path) c := by
  rw [List.foldl_filter]
  refine List.foldl_ext _ _ _ fun c x hx => ?_
  unfold Call.leave
  rw [if_neg (by simp [h x hx])]

/-- What calls leave in the cache: all files whose compiles have passed are remembered, and then
the one whose compile has failed is forgotten. -/
theorem content_of_ledger {passed last : List (PlannedFile × Call)} {content : CacheContent}
    {q : Progress ρ} (hpassed : ∀ x ∈ passed, x.2.passes b = true)
    (hnot : ∀ x ∈ last, x.2.passes b = false)
    (h : q.ledger = (passed ++ last).foldl (Ledger.enter b now) ⟨content, [], []⟩) :
    q.cache.content = (last.filter fun x => x.2.fails b).foldl
      (fun c x => c.forget b.name x.1.file.path)
      (passed.foldl (fun c x => x.2.remember b now x.1 c) content) := by
  have hfold := congrArg Ledger.content h
  rw [Ledger.content_foldl_enter, List.foldl_append, foldl_leave_of_passes hpassed,
    foldl_leave_of_not_passes hnot] at hfold
  exact hfold

/-- The files that calls have compiled are those of the calls that have passed. -/
theorem compiled_of_ledger {passed last : List (PlannedFile × Call)} {content : CacheContent}
    {q : Progress ρ} (hpassed : ∀ x ∈ passed, x.2.passes b = true)
    (hnot : ∀ x ∈ last, x.2.passes b = false)
    (h : q.ledger = (passed ++ last).foldl (Ledger.enter b now) ⟨content, [], []⟩) :
    q.outcome.compiled = passed.map (·.1.file.path) := by
  have hpaths := congrArg Ledger.compiled h
  rw [Ledger.compiled_foldl_enter, List.filter_append, List.filter_eq_self.mpr hpassed,
    List.filter_eq_nil_iff.mpr (by simpa using hnot), List.append_nil] at hpaths
  exact hpaths

/-- What is remembered of files that are neither remembered nor forgotten by calls stays. -/
theorem find?_forget_remember {passed last : List (PlannedFile × Call)} {content : CacheContent}
    {name : String} {path : Path} (hpassed : ∀ x ∈ passed, x.2.passes b = true)
    (hne : name = b.name → ∀ x ∈ passed ++ last,
      x.2.passes b = true ∨ x.2.fails b = true → x.1.file.path.components ≠ path.components) :
    ((last.filter fun x => x.2.fails b).foldl (fun c x => c.forget b.name x.1.file.path)
      (passed.foldl (fun c x => x.2.remember b now x.1 c) content)).find? name path =
      content.find? name path := by
  rw [find?_foldl_of_eq, find?_foldl_of_eq]
  · exact fun x hx c => find?_remember_of_ne x.2 fun hname =>
      hne hname x (List.mem_append_left _ hx) (Or.inl (hpassed x hx))
  · intro x hx c
    obtain ⟨hmem, hfails⟩ := List.mem_filter.mp hx
    exact find?_forget_of_ne fun hname =>
      hne hname x (List.mem_append_right _ hmem) (Or.inr hfails)

/-! ## The files of an operation -/

/-- The decisions of an operation are about different files. -/
theorem pairwise_filtered (hc : p.catalog.Registered) {c : CacheContent} {t : FileTree} {ph : Phase}
    (h : p.phase r c t = .ok ph) :
    ph.filtered.entries.Pairwise fun f g => f.file.path.components ≠ g.file.path.components := by
  obtain ⟨-, hplan, hfiltered⟩ := phase_eq_ok h
  have hpairwise := hc.pairwise_components (resolve_of_planFor hplan)
  rw [hfiltered]
  refine List.Pairwise.sublist (filterFor_sublist p ph.backend r.kind ph.plan c t) ?_
  rw [← List.pairwise_map (f := PlannedFile.file) (R := fun f g => f.path.components ≠
    g.path.components), CacheContent.filter, map_file_decideAll]
  exact hpairwise

/-- A file that is skipped is none of those to be compiled. -/
theorem components_ne_of_skipped (hc : p.catalog.Registered) {c : CacheContent} {t : FileTree}
    {ph : Phase} (h : p.phase r c t = .ok ph) {f g : PlannedFile} (hf : f ∈ ph.filtered.toBuild)
    (hg : g ∈ ph.filtered.skipped) : f.file.path.components ≠ g.file.path.components := by
  intro hsame
  obtain ⟨hfmem, hbuild⟩ := List.mem_filter.mp hf
  obtain ⟨hgmem, hskip⟩ := List.mem_filter.mp hg
  have hnodup : (ph.filtered.entries.map (·.file.path.components)).Nodup :=
    List.pairwise_map.mpr (pairwise_filtered hc h)
  obtain rfl := List.inj_on_of_nodup_map hnodup hfmem hgmem hsame
  simp [hbuild] at hskip

/-! ## The frame -/

/-- **The changes of a cache by the compiles of an operation**: `passed` are the files whose
compiles have passed, with the calls that were made for them, and `last` is the file with which the
loop has stopped, if a call was made for it. -/
structure CacheFrame (p : Project) (r : OperationRequest) (ph : Phase) (calls : List Call)
    (now : Timestamp) (t : FileTree) (before after : CacheContent) (o : OperationOutcome)
    (passed last : List (PlannedFile × Call)) : Prop where
  /-- They are all calls of the loop. -/
  all : (passed ++ last).map (·.2) = calls
  /-- Their files are the first of those to be compiled. -/
  files : (passed ++ last).map (·.1) <+: ph.filtered.toBuild
  /-- Each call was made to compile its file. -/
  invocation : ∀ x ∈ passed ++ last, p.compileCall ph.backend r x.1.file = .ok x.2.invocation
  /-- The first calls have passed. -/
  passes : ∀ x ∈ passed, x.2.passes ph.backend = true
  /-- The last one has not. -/
  stops : last.length ≤ 1 ∧ ∀ x ∈ last, x.2.passes ph.backend = false
  /-- The files that are reported as compiled are those whose compiles have passed. -/
  compiled : o.compiled = passed.map (·.1.file.path)
  /-- The fingerprints are those that the files have when the decisions are made. -/
  fingerprint : ∀ x ∈ passed, x.1.fingerprint = (t.fingerprint x.1.file.path).toOption
  /-- First every compiled file is remembered, and then the one whose compile has failed is
  forgotten. -/
  content : after = (last.filter fun x => x.2.fails ph.backend).foldl
    (fun c x => c.forget ph.backend.name x.1.file.path)
    (passed.foldl (fun c x => x.2.remember ph.backend now x.1 c) before)
  /-- What is remembered for other backends and of other files stays, which may also be that of the
  last file, when its compile was cancelled or could not be started. -/
  others : ∀ name path, (name = ph.backend.name → ∀ x ∈ passed ++ last,
    x.2.passes ph.backend = true ∨ x.2.fails ph.backend = true →
      x.1.file.path.components ≠ path.components) → after.find? name path = before.find? name path
  /-- What is remembered of the files that were skipped stays. -/
  skipped : ∀ name, ∀ path ∈ o.skipped, after.find? name path = before.find? name path

/-- **The frame of an operation.** An operation that does not come to its phase leaves the cache as
it is. Any other one changes it as `CacheFrame` says and in no other way, however it ends. The
content that the cache has in memory does not depend on whether it could be stored. -/
theorem cache_frame (hc : p.catalog.Registered) (run : Runner ρ) (r : OperationRequest)
    (clock : Clock) (cache : BuildCache) (session : Session ρ) :
    match p.phase r cache.content session.files with
    | .error _ => (p.operate run r clock cache session).cache = cache ∧
        (p.operate run r clock cache session).outcome.compiled = []
    | .ok ph => ∃ passed last,
        p.CacheFrame r ph (p.compileCallsOf run r clock cache session) clock.now session.files
          cache.content (p.operate run r clock cache session).cache.content
          (p.operate run r clock cache session).outcome passed last := by
  cases hphase : p.phase r cache.content session.files with
  | error e =>
    obtain ⟨name, ho⟩ := operate_of_error run clock hphase
    rw [ho]
    exact ⟨rfl, rfl⟩
  | ok ph =>
    obtain ⟨c, x, rest, answer, q, hexecute, -, hcompiling, -, hledger, -⟩ :=
      exists_execution run clock hphase
    obtain ⟨-, hcache, hcompiled⟩ := calls_operate_of_execution run clock hphase hexecute
    obtain ⟨passed, last, hzip, hcalls, hprefix, hmade, hlast, hpassed, hnot⟩ :=
      hcompiling.exists_zip_eq
    rw [hzip] at hledger
    have hfiles : ∀ x ∈ passed ++ last, x.1 ∈ ph.filtered.toBuild := fun x hx =>
      hprefix.subset (List.mem_map_of_mem hx)
    have hcontent := content_of_ledger hpassed hnot hledger
    have hothers : ∀ name path, (name = ph.backend.name → ∀ x ∈ passed ++ last,
        x.2.passes ph.backend = true ∨ x.2.fails ph.backend = true →
          x.1.file.path.components ≠ path.components) →
        q.cache.content.find? name path = cache.content.find? name path := by
      intro name path hne
      rw [hcontent]
      exact find?_forget_remember hpassed hne
    rw [← hcache] at hcontent hothers
    refine ⟨passed, last, hcalls, hprefix, hmade, hpassed, ⟨hlast, hnot⟩,
      hcompiled.trans (compiled_of_ledger hpassed hnot hledger), fun x hx => ?_, hcontent, hothers,
      fun name path hskip => ?_⟩
    · exact fingerprint_of_mem_filtered hphase (hfiles x (List.mem_append_left _ hx))
    · rw [skipped_operate run clock hphase] at hskip
      obtain ⟨g, hg, rfl⟩ := List.mem_map.mp hskip
      exact hothers name _ fun _ x hx _ => components_ne_of_skipped hc hphase (hfiles x hx) hg

/-- When the first of two files passes and the second one fails, the first one is remembered and
what was remembered of the second one is forgotten. -/
theorem cache_frame_pair :
    ∃ passed last : List (PlannedFile × Call),
      passed.map (·.1.file.path) = [⟨"/p/a.v"⟩] ∧ last.map (·.1.file.path) = [⟨"/p/b.v"⟩] ∧
      (runPair ⟨.memory none, pairCache⟩ [0, 1]).cache.content =
        last.foldl (fun c x => c.forget "sim" x.1.file.path)
          (passed.foldl (fun c x => x.2.remember (steadyBackend "sim") ⟨"now"⟩ x.1 c)
            pairCache) := by
  have hframe := cache_frame registered_pair codeRunner ⟨.compile, none, none, {}⟩
    ⟨⟨"now"⟩, "now"⟩ ⟨.memory none, pairCache⟩ (pairSession [0, 1])
  have hphase : pair.phase ⟨.compile, none, none, {}⟩ pairCache (pairSession [0, 1]).files =
      .ok (pairPhase pairCache) := (compiles_pair pairCache).phase
  rw [hphase] at hframe
  obtain ⟨passed, last, hframe⟩ := hframe
  have hone : (runPair ⟨.memory none, pairCache⟩ [0, 1]).outcome.compiled = [⟨"/p/a.v"⟩] := by
    decide +kernel
  have hfirst : passed.map (·.1.file.path) = [⟨"/p/a.v"⟩] := hframe.compiled.symm.trans hone
  have hcalls : (pair.compileCallsOf codeRunner ⟨.compile, none, none, {}⟩ ⟨⟨"now"⟩, "now"⟩
      ⟨.memory none, pairCache⟩ (pairSession [0, 1])).map (·.fails (steadyBackend "sim")) =
        [false, true] := by
    decide +kernel
  have hpaths : (pairPhase pairCache).filtered.toBuild.map (·.file.path) =
      [⟨"/p/a.v"⟩, ⟨"/p/b.v"⟩] := by
    decide +kernel
  -- one of the two calls has passed, so that the other one is the last
  have hlength : passed.length = [true].length := by simpa using congrArg List.length hfirst
  rw [← hframe.all, List.map_append, List.map_append] at hcalls
  obtain ⟨-, hfails⟩ := List.append_inj (hcalls.trans (by rfl : _ = [false] ++ [true]))
    (by simpa using hlength)
  have hone' : last.length = 1 := by simpa using congrArg List.length hfails
  have hfiles := List.IsPrefix.eq_of_length (hframe.files.map fun f : PlannedFile => f.file.path)
    (by rw [hpaths]; simp [hone', hlength])
  rw [hpaths, List.map_append, List.map_append, List.map_map, List.map_map] at hfiles
  obtain ⟨-, hsecond⟩ := List.append_inj (hfiles.trans (by rfl : _ = [⟨"/p/a.v"⟩] ++ [⟨"/p/b.v"⟩]))
    (by simpa using hlength)
  have hkeep : (last.filter fun x => x.2.fails (steadyBackend "sim")) = last := by
    refine List.filter_eq_self.mpr fun x hx => ?_
    have hmem : x.2.fails (steadyBackend "sim") ∈
        (last.map (·.2)).map (·.fails (steadyBackend "sim")) :=
      List.mem_map_of_mem (List.mem_map_of_mem hx)
    rw [hfails] at hmem
    simpa using hmem
  have hcontent : (runPair ⟨.memory none, pairCache⟩ [0, 1]).cache.content =
      (last.filter fun x => x.2.fails (steadyBackend "sim")).foldl
        (fun c x => c.forget "sim" x.1.file.path)
        (passed.foldl (fun c x => x.2.remember (steadyBackend "sim") ⟨"now"⟩ x.1 c) pairCache) :=
    hframe.content
  rw [hkeep] at hcontent
  exact ⟨passed, last, hfirst, hsecond, hcontent⟩

end Project

end RtlFlow
