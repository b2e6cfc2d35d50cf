import RtlFlow.Proofs.Archive.Creation
import RtlFlow.Proofs.Host.Copying

/-! # Bundles do not overwrite anything

What is written into a bundle is written inside its new directory (`writes_fill`), in which nothing
stood, so everything that a tree holds it still holds when a bundle was written, or when writing it
has failed half way (`within_action`). Each bundle has its own directory in the root of the archive,
whatever the project is called, under the first name that is free (`Call.Creates`), so the bundles
of a row of calls have different names (`bundles_overwrite_nothing`). -/

namespace RtlFlow.Archive

open FileTree FileAction
open RtlFlow.Path (IsName)

variable {t t' : FileTree} {root target artifact : Path} {b d l : Location} {bundle : Bundle}
  {taken names : List String} {name : String}

/-! ## Writing inside a directory -/

/-- What lies inside a location. -/
def inside (b : Location) : Set Location := {k | ∃ n, b ++ [n] <+: k}

/-- What lies inside a location under names that are not taken. -/
def insideUntaken (b : Location) (taken : List String) : Set Location :=
  {k | ∃ n ∉ taken, b ++ [n] <+: k}

theorem insideUntaken_subset (b : Location) (taken : List String) :
    insideUntaken b taken ⊆ inside b := fun _ ⟨n, _, hk⟩ => ⟨n, hk⟩

theorem belowNames_subset_inside (b : Location) (names : List String) :
    belowNames b names ⊆ inside b := fun _ ⟨n, _, hk⟩ => ⟨n, hk⟩

/-- Below a name that is taken nothing lies under names that are not. -/
theorem notMem_insideUntaken (h : name ∈ taken) (b k : Location) :
    b ++ [name] ++ k ∉ insideUntaken b taken := by
  rintro ⟨n, hn, hprefix⟩
  have hne : name ≠ n := fun heq => hn (heq ▸ h)
  exact ((apart_of_ne b hne).append k []).2 (by simpa using hprefix)

/-- The name under which a file enters a bundle is a name. -/
theorem isName_freeName (taken : List String) (h : artifact.fileName? = some name) :
    IsName (freeName taken name) := by
  obtain ⟨-, n, hnumber⟩ := freeName_spec taken name
  rw [hnumber]
  exact isName_numberedFile (Path.isName_of_fileName? h) n

/-- An artifact is copied as a file or as a directory, or it is not there. -/
theorem run_copyArtifact (artifact target : Path) (t : FileTree) :
    (copyArtifact artifact target).run t =
      if t.isFile artifact then
        (ExceptT.adapt (fun e => ArchiveError.write target e.message)
          (Host.copyFile artifact target) >>= fun _ => pure true).run t
      else if t.isDir artifact then
        (ExceptT.adapt (fun e => ArchiveError.write target e.message)
          (Host.copyTree artifact target) >>= fun _ => pure true).run t
      else (.ok false, t) := by
  unfold copyArtifact
  dsimp only
  rw [run_bind, run_get]
  dsimp only
  split
  · rfl
  · split <;> rfl

/-- **Copying an artifact writes below its target only.** -/
theorem writes_copyArtifact (artifact : Path) (ht : t.Proper) (hp : t.Points target d)
    (hname : target.fileName? ≠ none) :
    Writes (below d) t ((copyArtifact artifact target).run t).2 := by
  rw [run_copyArtifact]
  split
  · have hcopy := (writes_copyFile ht hname hp.needs artifact).mono (singleton_subset_below d)
    exact writes_bind_pure (writes_adapt hcopy) _
  · split
    · rename_i hdir
      have hcopy := writes_copyTree ht hp (text_ne_of_fileName? hname) hdir
      exact writes_bind_pure (writes_adapt hcopy) _
    · exact .refl _ t

/-- A bundle in which an artifact is noted as copied to a place, or as missing. -/
def Bundle.noted (bundle : Bundle) (artifact target : Path) (copied : Bool) :
    Bundle :=
  if copied then { bundle with artifacts := bundle.artifacts ++ [target] }
  else { bundle with missing := bundle.missing ++ [artifact] }

theorem noted_path (bundle : Bundle) (artifact target : Path) (copied : Bool) :
    (bundle.noted artifact target copied).path = bundle.path := by
  cases copied <;> rfl

/-- **An artifact with a name is copied** under one that is free, and noted. -/
theorem copyArtifacts_cons (taken : List String) (bundle : Bundle)
    (hname : artifact.fileName? = some name) (artifacts : List Path) :
    copyArtifacts taken bundle (artifact :: artifacts) =
      (copyArtifact artifact (bundle.path.child (freeName taken name)) >>= fun copied =>
        copyArtifacts (freeName taken name :: taken)
          (bundle.noted artifact (bundle.path.child (freeName taken name)) copied) artifacts) := by
  rw [copyArtifacts, hname]
  dsimp only
  congr 1
  funext copied
  cases copied <;> rfl

/-- **Copying artifacts writes inside the bundle only**, under names that are not taken. -/
theorem writes_copyArtifacts (taken : List String) (bundle : Bundle) (artifacts : List Path)
    (ht : t.Proper) (hp : t.Points bundle.path b) (hb : t.entryAt? b = some .directory) :
    Writes (insideUntaken b taken) t ((copyArtifacts taken bundle artifacts).run t).2 := by
  induction artifacts generalizing taken bundle t with
  | nil => exact .refl _ t
  | cons artifact artifacts ih =>
    cases hname : artifact.fileName? with
    | none =>
      rw [copyArtifacts, hname]
      exact ih taken _ ht hp hb
    | some name =>
      have hfree := isName_freeName taken hname
      obtain ⟨huntaken, -⟩ := freeName_spec taken name
      rw [copyArtifacts_cons taken bundle hname]
      generalize freeName taken name = name at hfree huntaken
      have hfirst := writes_copyArtifact artifact ht (hp.child hb hfree)
        (fileName?_child_ne_none hfree)
      refine writes_bind (hfirst.mono fun k hk => ⟨name, huntaken, hk⟩) fun copied t₁ hrun => ?_
      have hfirst := hfirst.of_run hrun
      refine (ih (name :: taken) _ (hfirst.proper ht) ?_
        (hfirst.sameWays.directories b hb)).mono ?_
      · rw [noted_path]
        exact hp.of_sameWays hfirst.sameWays
      · rintro k ⟨n, hn, hk⟩
        exact ⟨n, fun hmem => hn (List.mem_cons_of_mem _ hmem), hk⟩

/-- Writes a log file of a bundle. -/
def writeLog (bundle : Path) (name text : String) : FileAction ArchiveError Unit :=
  ExceptT.adapt (fun e => .write (bundle.child name) e.message)
    (Host.writeText (bundle.child name) text)

theorem writeLogs_eq (bundle : Path) (result : ToolResult) :
    writeLogs bundle result =
      writeLog bundle "stdout.log" result.stdout >>= fun _ =>
        writeLog bundle "stderr.log" result.stderr >>= fun _ => pure () := rfl

/-- **Writing a log file writes nothing else.** -/
theorem writes_writeLog {path : Path} (ht : t.Proper) (hp : t.Points path b)
    (hb : t.entryAt? b = some .directory) (hname : IsName name) (text : String) :
    Writes {b ++ [name]} t ((writeLog path name text).run t).2 := by
  have hwrite := writes_writeText ht (fileName?_child_ne_none hname) (hp.child hb hname).needs text
  exact writes_adapt hwrite

theorem isName_logNames : ∀ n ∈ logNames, IsName n := by decide

/-- **Writing the log files writes nothing else.** -/
theorem writes_writeLogsOf {path : Path} (ht : t.Proper) (hp : t.Points path b)
    (hb : t.entryAt? b = some .directory) (result : Option ToolResult) :
    Writes (belowNames b logNames) t ((writeLogsOf path result).run t).2 := by
  have hsub : ∀ n ∈ logNames, ({b ++ [n]} : Set Location) ⊆ belowNames b logNames := by
    rintro n hn k rfl
    exact ⟨n, hn, List.prefix_rfl⟩
  cases result with
  | none => exact .refl _ t
  | some result =>
    show Writes _ t ((writeLogs path result).run t).2
    rw [writeLogs_eq]
    have hstdout : "stdout.log" ∈ logNames := by decide
    have hstderr : "stderr.log" ∈ logNames := by decide
    have hfirst := writes_writeLog ht hp hb (isName_logNames _ hstdout) result.stdout
    refine writes_bind (hfirst.mono (hsub _ hstdout)) fun _ t₁ hrun => ?_
    have hfirst := hfirst.of_run hrun
    have hsecond := writes_writeLog (hfirst.proper ht) (hp.of_sameWays hfirst.sameWays)
      (hfirst.sameWays.directories b hb) (isName_logNames _ hstderr) result.stderr
    exact writes_bind_pure (hsecond.mono (hsub _ hstderr)) _

/-! ## A new directory -/

/-- A new directory is there, its path leads to it, and nothing stands inside. -/
theorem IsFirstFree.made {base : String} {path : Path} (h : IsFirstFree root base t name path l)
    (ht : t.Proper) :
    Within t (t.put l .directory) ∧ (t.put l .directory).Proper ∧
      (t.put l .directory).entryAt? l = some .directory ∧
      (t.put l .directory).locate path = .ok l ∧
      ∀ k ∈ inside l, (t.put l .directory).entryAt? k = none := by
  have hne : t.entryAt? l ≠ some .directory := by simp [h.free]
  have hwithin : Within t (t.put l .directory) := within_put h.free
  have hdir : (t.put l .directory).entryAt? l = some .directory := by
    rw [entryAt?_put (ne_nil_of_entryAt? hne), if_pos rfl]
  refine ⟨hwithin, ?_, hdir, hwithin.sameWays.locate_kept h.leads (Or.inr hdir), ?_⟩
  · exact (ht.writes_locate (S := Set.univ) h.leads hne (fun _ _ => Or.inl trivial) _).proper ht
  · rintro k ⟨n, m, rfl⟩
    rw [entryAt?_put (ne_nil_of_entryAt? hne), if_neg (by simp), List.append_assoc]
    exact ht.rooted.free_below hne (by simp)

/-- **A bundle is filled inside its directory only**, whether it succeeds or not. -/
theorem writes_fill (bundle : Bundle) (artifacts : List Path) (ht : t.Proper)
    (hp : t.Points bundle.path b) (hb : t.entryAt? b = some .directory)
    (result : Option ToolResult) :
    Writes (inside b) t ((do
      let bundle' ← copyArtifacts logNames bundle artifacts
      writeLogsOf bundle.path result
      return bundle' : FileAction ArchiveError Bundle).run t).2 := by
  have hcopies := writes_copyArtifacts logNames bundle artifacts ht hp hb
  refine writes_bind (hcopies.mono (insideUntaken_subset b logNames)) fun bundle' t₁ hrun => ?_
  have hcopies := hcopies.of_run hrun
  have hlogs := writes_writeLogsOf (hcopies.proper ht) (hp.of_sameWays hcopies.sameWays)
    (hcopies.sameWays.directories b hb) result
  exact writes_bind_pure (hlogs.mono (belowNames_subset_inside b logNames)) _

/-- What was written into a bundle when it was filled lies inside its directory. -/
theorem writes_of_filled {path : Path} {artifacts : List Path} {result : Option ToolResult}
    {t₁ : FileTree} (ht : t.Proper) (hp : t.Points path b) (hb : t.entryAt? b = some .directory)
    (hcopy : (copyArtifacts logNames ⟨name, path, [], []⟩ artifacts).run t = (.ok bundle, t₁))
    (hlogs : (writeLogsOf path result).run t₁ = (.ok (), t')) : Writes (inside b) t t' := by
  have hfill := writes_fill ⟨name, path, [], []⟩ artifacts ht hp hb result
  rw [run_bind, hcopy] at hfill
  dsimp only at hfill
  rw [run_bind, hlogs] at hfill
  exact hfill

/-! ## One call -/

/-- **A call that archives the outputs of an operation.** -/
structure Call where
  /-- What was done. -/
  operation : Operation
  /-- The project. -/
  project : String
  /-- Whether the operation succeeded. -/
  succeeded : Bool
  /-- What is to be kept. -/
  artifacts : List Path
  /-- What the tool has written, if one was run. -/
  result : Option ToolResult
  /-- The time. -/
  stamp : String

/-- The name of the bundle without a number. -/
def Call.base (c : Call) : String := bundleName c.operation c.project c.succeeded c.stamp

/-- What a call does. -/
def Call.action (root : Path) (c : Call) : FileAction ArchiveError Bundle :=
  write root c.operation c.project c.succeeded c.artifacts c.result c.stamp

/-- **Whatever a call does, all is kept** that the tree holds, and the tree stays as a file system
keeps it. -/
theorem within_action (ht : t.Proper) (root : Path) (c : Call) :
    Within t ((c.action root).run t).2 ∧ ((c.action root).run t).2.Proper := by
  have hroot := within_withRoot root t
  have htroot := proper_withRoot ht root
  rw [Call.action, write_eq, run_bind]
  rcases createBundle_cases root (bundleName c.operation c.project c.succeeded c.stamp) t with
    ⟨e, hrun⟩ | ⟨name, path, l, hnew, hrun⟩ <;> rw [hrun]
  · exact ⟨hroot, htroot⟩
  · obtain ⟨hwithin, hproper, hdir, hlocate, hempty⟩ := hnew.made htroot
    -- after the root and the directory all is written inside, also when an artifact is refused
    have hfill := writes_fill ⟨name, path, [], []⟩ c.artifacts hproper
      (points_of_locate hlocate) hdir c.result
    exact ⟨hroot.trans (hwithin.trans (hfill.within hempty)), hfill.proper hproper⟩

/-- **What a call that succeeds creates.** -/
structure Call.Creates (c : Call) (root : Path) (t t' : FileTree) (bundle : Bundle) : Prop where
  /-- Its name has the least number that is free when the root of the archive is there. -/
  number : ∃ n, bundle.name = numbered c.base n ∧
    (∀ j < n, (withRoot root t).isPresent (root.child (numbered c.base j)) = true) ∧
    (withRoot root t).isPresent (root.child (numbered c.base n)) = false
  /-- Its name is the name of one entry. -/
  isName : IsName bundle.name
  /-- Its path is that of a child of the root. -/
  child : bundle.path = root.child bundle.name
  /-- Nothing stood at its place before. -/
  fresh : t.entryAt? (t.placeOf root ++ [bundle.name]) = none
  /-- Its path leads to its place. -/
  leads : t'.locate bundle.path = .ok (t.placeOf root ++ [bundle.name])
  /-- A directory stands there. -/
  made : t'.entryAt? (t.placeOf root ++ [bundle.name]) = some .directory

/-- **A call that succeeds creates** a directory in the root of the archive. -/
theorem Call.creates (ht : t.Proper) {c : Call} (hstamp : IsStamp c.stamp)
    (h : (c.action root).run t = (.ok bundle, t')) : c.Creates root t t' bundle := by
  have hroot := within_withRoot root t
  have htroot := proper_withRoot ht root
  obtain ⟨l, t₁, hnew, hcopy, hlogs⟩ := write_eq_ok h
  obtain ⟨hwithin, hproper, hdir, hlocate, -⟩ := hnew.made htroot
  have hfill := writes_of_filled hproper (points_of_locate hlocate) hdir hcopy hlogs
  obtain ⟨n, hname, htaken⟩ := hnew.number
  have hisName : IsName bundle.name :=
    hname ▸ isName_numbered_bundleName hstamp c.operation c.project c.succeeded n
  -- the place of a child of the root
  have hplace : l = t.placeOf root ++ [bundle.name] := by
    rw [← placeOf_of_locate hnew.leads, hnew.child, placeOf_child hisName,
      placeOf_of_workingDir hroot.workingDir]
  have hdir' := hfill.sameWays.directories l hdir
  refine ⟨⟨n, hname, htaken, ?_⟩, hisName, hnew.child, ?_, ?_, ?_⟩
  · have habsent := hnew.absent
    rw [hnew.child, hname] at habsent
    exact habsent
  · rw [← hplace]
    exact hroot.free hnew.free
  · rw [← hplace]
    exact hfill.sameWays.locate_kept hlocate (Or.inr hdir')
  · rw [← hplace]
    exact hdir'

/-! ## Rows of calls -/

/-- The tree that a row of calls leaves. -/
def treeAfter (root : Path) (t : FileTree) (calls : List Call) : FileTree :=
  calls.foldl (fun t c => ((c.action root).run t).2) t

/-- The bundles that a row of calls writes. -/
def bundlesOf (root : Path) (t : FileTree) : List Call → List Bundle
  | [] => []
  | c :: calls =>
    match (c.action root).run t with
    | (.ok bundle, t') => bundle :: bundlesOf root t' calls
    | (.error _, t') => bundlesOf root t' calls

theorem within_treeAfter (ht : t.Proper) (root : Path) (calls : List Call) :
    Within t (treeAfter root t calls) ∧ (treeAfter root t calls).Proper := by
  induction calls generalizing t with
  | nil => exact ⟨.refl t, ht⟩
  | cons c calls ih =>
    obtain ⟨hwithin, hproper⟩ := within_action ht root c
    obtain ⟨hrest, hproper'⟩ := ih hproper
    exact ⟨hwithin.trans hrest, hproper'⟩

/-- **The places of the bundles of a row of calls are free** before the first one. -/
theorem free_of_mem_bundlesOf {calls : List Call} (ht : t.Proper)
    (hstamps : ∀ c ∈ calls, IsStamp c.stamp) (hmem : bundle ∈ bundlesOf root t calls) :
    t.entryAt? (t.placeOf root ++ [bundle.name]) = none := by
  induction calls generalizing t with
  | nil => cases hmem
  | cons c calls ih =>
    obtain ⟨hstamp, hstamps⟩ := List.forall_mem_cons.mp hstamps
    obtain ⟨hwithin, hproper⟩ := within_action ht root c
    -- what is free behind the first call was free in front of it
    have hrest : bundle ∈ bundlesOf root ((c.action root).run t).2 calls →
        t.entryAt? (t.placeOf root ++ [bundle.name]) = none := by
      intro hmem
      have hfree := ih hproper hstamps hmem
      rw [placeOf_of_workingDir hwithin.workingDir] at hfree
      exact hwithin.free hfree
    unfold bundlesOf at hmem
    rcases hrun : (c.action root).run t with ⟨e | first, t₁⟩ <;> rw [hrun] at hmem hrest
    · exact hrest hmem
    · rcases List.mem_cons.mp hmem with rfl | hmem
      · exact (Call.creates ht hstamp hrun).fresh
      · exact hrest hmem

/-- **The bundles of a row of calls** have different names. -/
theorem nodup_bundlesOf {calls : List Call} (ht : t.Proper)
    (hstamps : ∀ c ∈ calls, IsStamp c.stamp) :
    ((bundlesOf root t calls).map Bundle.name).Nodup := by
  induction calls generalizing t with
  | nil => exact List.nodup_nil
  | cons c calls ih =>
    obtain ⟨hstamp, hstamps⟩ := List.forall_mem_cons.mp hstamps
    obtain ⟨hwithin, hproper⟩ := within_action ht root c
    have hrest := ih hproper hstamps
    unfold bundlesOf
    rcases hrun : (c.action root).run t with ⟨e | first, t₁⟩ <;>
      rw [hrun] at hwithin hproper hrest <;> dsimp only at hwithin hproper hrest ⊢
    · exact hrest
    · refine List.nodup_cons.mpr ⟨fun hmem => ?_, hrest⟩
      -- a directory stands at the place of the first bundle when the next one is written
      obtain ⟨other, hother, hname⟩ := List.mem_map.mp hmem
      have hfree := free_of_mem_bundlesOf hproper hstamps hother
      rw [hname, placeOf_of_workingDir hwithin.workingDir, (Call.creates ht hstamp hrun).made]
        at hfree
      cases hfree

/-- **Bundles do not overwrite anything.** Every call of a row keeps all that the tree holds,
whether it succeeds or not, and if it succeeds creates a directory in the root of the archive under
the first name that is free; so the bundles of the row have different names. -/
theorem bundles_overwrite_nothing (root : Path) {calls : List Call} (ht : t.Proper)
    (hstamps : ∀ c ∈ calls, IsStamp c.stamp) :
    (∀ before c after, calls = before ++ c :: after →
        Within (treeAfter root t before) (treeAfter root t (before ++ [c])) ∧
        ∀ bundle t', (c.action root).run (treeAfter root t before) = (.ok bundle, t') →
          t' = treeAfter root t (before ++ [c]) ∧
            c.Creates root (treeAfter root t before) t' bundle) ∧
      ((bundlesOf root t calls).map Bundle.name).Nodup := by
  refine ⟨?_, nodup_bundlesOf ht hstamps⟩
  rintro before c after rfl
  obtain ⟨-, hproper⟩ := within_treeAfter ht root before
  have hafter : treeAfter root t (before ++ [c]) =
      ((c.action root).run (treeAfter root t before)).2 := by
    simp [treeAfter]
  rw [hafter]
  refine ⟨(within_action hproper root c).1, fun bundle t' hrun => ⟨by rw [hrun], ?_⟩⟩
  exact Call.creates hproper (hstamps c (by simp)) hrun

/-- An archive in which a file has the name of the next bundle. -/
def takenArchive : FileTree :=
  ⟨[(["archive"], .directory),
    (["archive", "uart_compile_20240301_101500"], .file ⟨#[107]⟩ false)], []⟩

/-- A call that keeps that file. -/
def keepingCall : Call :=
  ⟨.compile, "uart", true, [⟨"/archive/uart_compile_20240301_101500"⟩], none, "20240301_101500"⟩

/-- Another call at the same time, for a project that is called the same in file names. -/
def sameCall : Call := ⟨.compile, " uart ", true, [], none, "20240301_101500"⟩

/-- The bundles are written beside that file. -/
theorem bundles_overwrite_nothing_taken :
    takenArchive.Proper ∧ (∀ c ∈ [keepingCall, sameCall], IsStamp c.stamp) ∧
      (bundlesOf ⟨"/archive"⟩ takenArchive [keepingCall, sameCall]).map Bundle.name =
        ["uart_compile_20240301_101500_1", "uart_compile_20240301_101500_2"] ∧
      Within takenArchive (treeAfter ⟨"/archive"⟩ takenArchive ([] ++ [keepingCall])) ∧
      ((bundlesOf ⟨"/archive"⟩ takenArchive [keepingCall, sameCall]).map Bundle.name).Nodup := by
  have hproper : takenArchive.Proper :=
    ⟨rooted_of_entries (by decide), by decide, by decide⟩
  have hstamps : ∀ c ∈ [keepingCall, sameCall], IsStamp c.stamp := by decide +kernel
  obtain ⟨hcalls, hnodup⟩ := bundles_overwrite_nothing ⟨"/archive"⟩ hproper hstamps
  obtain ⟨hwithin, -⟩ := hcalls [] keepingCall [sameCall] rfl
  exact ⟨hproper, hstamps, by decide +kernel, hwithin, hnodup⟩

end RtlFlow.Archive
