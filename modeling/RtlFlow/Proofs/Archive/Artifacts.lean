import RtlFlow.Proofs.Archive.Bundles
import Mathlib.Data.List.Forall2

/-! # What a bundle holds

An artifact that stands outside a bundle stands there as it stood whatever was copied into the
bundle before (`outside_iff_of_writes`), and it is copied under a name that neither an earlier
artifact nor a log file has (`copyArtifacts_spec`). So a bundle that was written holds equal copies
of all artifacts that are there, each under its own name, and what the tool has written
(`artifacts_kept`). -/

namespace RtlFlow

namespace FileTree

variable {t t' : FileTree} {p : Path} {b : Location} {S : Set Location}

/-! ## Paths outside a directory -/

/-- **A path outside a directory**: it may pass through it but enters nothing in it, and what it
leads to neither lies in the directory nor holds it. -/
structure Outside (t : FileTree) (p : Path) (b : Location) : Prop where
  /-- It enters nothing in the directory. -/
  enters : ∀ k ∈ t.ways p, b <+: k → k = b
  /-- What it leads to is apart from the directory. -/
  apart : t.isPresent p = true → Apart (t.placeOf p) b

instance (l d : Location) : Decidable (Apart l d) := inferInstanceAs (Decidable (_ ∧ _))

instance (t : FileTree) (p : Path) (b : Location) : Decidable (t.Outside p b) :=
  decidable_of_iff ((∀ k ∈ t.ways p, b <+: k → k = b) ∧
    (t.isPresent p = true → Apart (t.placeOf p) b)) ⟨fun h => ⟨h.1, h.2⟩, fun h => ⟨h.1, h.2⟩⟩

/-- Something is there when it is a file or a directory. -/
theorem isPresent_eq (t : FileTree) (p : Path) : t.isPresent p = (t.isFile p || t.isDir p) := by
  unfold isPresent isFile isDir
  rcases t.get? p with - | (⟨content, executable⟩ | -) <;> rfl

/-- Something is there at the place of a path. -/
theorem locate_of_isPresent (h : t.isPresent p = true) : t.locate p = .ok (t.placeOf p) := by
  obtain ⟨l, hlocate, -⟩ := isPresent_iff.mp h
  rw [placeOf_of_locate hlocate]
  exact hlocate

end FileTree

namespace Archive

open FileTree FileAction
open RtlFlow.Path (IsName)

variable {t t' : FileTree} {root target artifact path : Path} {b d l : Location}
  {bundle bundle' : Bundle} {taken names : List String} {name : String} {artifacts : List Path}
  {S : Set Location}

/-- A path that enters nothing in a directory passes nothing inside. -/
theorem notMem_inside (h : ∀ k ∈ t.ways artifact, b <+: k → k = b) :
    ∀ k ∈ t.ways artifact, k ∉ inside b := by
  rintro k hk ⟨n, hprefix⟩
  have heq := h k hk ((List.prefix_append b [n]).trans hprefix)
  subst heq
  have hlength := hprefix.length_le
  simp at hlength

/-- **An artifact outside a bundle** is outside, and is there, as before when something is written
in the bundle. -/
theorem outside_iff_of_writes (h : Writes (inside b) t t') :
    t'.Outside artifact b ↔ t.Outside artifact b := by
  have hways := ways_of_workingDir h.sameWays.workingDir artifact
  have hplace := placeOf_of_workingDir h.sameWays.workingDir artifact
  constructor
  · rintro ⟨henters, hapart⟩
    rw [hways] at henters
    rw [isPresent, h.get? (notMem_inside henters), hplace] at hapart
    exact ⟨henters, hapart⟩
  · rintro ⟨henters, hapart⟩
    refine ⟨hways ▸ henters, ?_⟩
    rw [isPresent, h.get? (notMem_inside henters), hplace]
    exact hapart

/-- Whether an artifact is a file or a directory. -/
def isThere (t : FileTree) (artifact : Path) : Bool := t.isFile artifact || t.isDir artifact

theorem isThere_of_writes (h : Writes (inside b) t t') (ho : t.Outside artifact b) :
    isThere t' artifact = isThere t artifact := by
  rw [isThere, isThere, ← isPresent_eq, ← isPresent_eq, isPresent, isPresent,
    h.get? (notMem_inside ho.enters)]

theorem filter_isThere_of_writes (h : Writes (inside b) t t')
    (ho : ∀ a ∈ artifacts, t.Outside a b) :
    artifacts.filter (isThere t') = artifacts.filter (isThere t) ∧
      artifacts.filter (fun a => !isThere t' a) = artifacts.filter (fun a => !isThere t a) :=
  ⟨List.filter_congr fun a ha => isThere_of_writes h (ho a ha),
    List.filter_congr fun a ha => by rw [isThere_of_writes h (ho a ha)]⟩

/-! ## Copies of artifacts -/

/-- **An artifact is copied** if it is there, and its copy is equal. -/
theorem copyArtifact_eq_ok {copied : Bool} (ht : t.Proper) (hp : t.Points target d)
    (hname : target.fileName? ≠ none) (hfree : t.entryAt? d = none)
    (hapart : t.isPresent artifact = true → Apart (t.placeOf artifact) d)
    (h : (copyArtifact artifact target).run t = (.ok copied, t')) :
    copied = isThere t artifact ∧
      (copied = true → CopyOf t (t.placeOf artifact) t' d ∧ t'.locate target = .ok d) := by
  rw [run_copyArtifact] at h
  rw [isPresent_eq] at hapart
  unfold isThere
  split at h
  · rename_i hfile
    rw [hfile, Bool.true_or] at hapart ⊢
    obtain ⟨_, t₁, hcopy, hpure⟩ := exists_of_bind_eq_ok h
    cases hpure
    have hne : t.placeOf artifact ≠ d := fun heq => (hapart rfl).1 (heq ▸ List.prefix_rfl)
    exact ⟨rfl, fun _ => copyOf_copyFile ht hp hname rfl hne (run_adapt_eq_ok_iff.mp hcopy)⟩
  · rename_i hfile
    split at h
    · rename_i hdir
      rw [hdir, Bool.or_true] at hapart ⊢
      obtain ⟨_, t₁, hcopy, hpure⟩ := exists_of_bind_eq_ok h
      cases hpure
      exact ⟨rfl, fun _ => copyOf_copyTree ht hp (text_ne_of_fileName? hname) hdir rfl (hapart rfl)
        hfree (run_adapt_eq_ok_iff.mp hcopy)⟩
    · rename_i hdir
      cases h
      exact ⟨by simp [hfile, hdir], fun h => by cases h⟩

/-- **An artifact is kept** in a bundle under a name: what stood at its place stands there. -/
structure Kept (t : FileTree) (path : Path) (b : Location) (t' : FileTree) (artifact : Path)
    (name : String) : Prop where
  /-- It stands outside. -/
  outside : t.Outside artifact b
  /-- It is there. -/
  isThere : t.isPresent artifact = true
  /-- The copy is equal. -/
  equal : CopyOf t (t.placeOf artifact) t' (b ++ [name])
  /-- Its path leads to the copy. -/
  found : t'.locate (path.child name) = .ok (b ++ [name])

/-- Where nothing is written at a copy nor below, it stays equal. -/
theorem CopyOf.of_writes (h : CopyOf t l t' d) {t'' : FileTree} (hw : Writes S t' t'')
    (hS : ∀ k, d ++ k ∉ S) : CopyOf t l t'' d := fun k => (hw.entryAt? (hS k)).trans (h k)

/-- A copy stays where nothing is written at its place nor below. -/
theorem Kept.of_writes {t'' : FileTree} (h : Kept t path b t' artifact name)
    (hw : Writes S t' t'') (hS : ∀ k, b ++ [name] ++ k ∉ S) :
    Kept t path b t'' artifact name := by
  have hkept := hw.entryAt? (hS [])
  rw [List.append_nil] at hkept
  exact ⟨h.outside, h.isThere, CopyOf.of_writes h.equal hw hS,
    hw.sameWays.locate_kept h.found (Or.inl hkept)⟩

theorem Apart.notMem_inside (h : Apart l b) (k : Location) : l ++ k ∉ inside b := by
  rintro ⟨n, hprefix⟩
  exact (h.append k [n]).2 hprefix

/-- A copy is equal to what stood there before something else was written in the bundle. -/
theorem Kept.of_before {t₁ : FileTree} (h : Kept t₁ path b t' artifact name)
    (hw : Writes (inside b) t t₁) : Kept t path b t' artifact name := by
  have houtside := (outside_iff_of_writes hw).mp h.outside
  have hplace := placeOf_of_workingDir hw.sameWays.workingDir artifact
  have hthere : t.isPresent artifact = true := by
    have hthere := h.isThere
    rwa [isPresent, hw.get? (notMem_inside houtside.enters)] at hthere
  refine ⟨houtside, hthere, fun k => ?_, h.found⟩
  rw [h.equal k, hplace, hw.entryAt? (Apart.notMem_inside (houtside.apart hthere) k)]

/-- **A bundle that was filled** with the artifacts that are there, under names of their own that
were not taken; the others are listed. -/
structure Filled (t : FileTree) (b : Location) (t' : FileTree) (bundle bundle' : Bundle)
    (taken : List String) (artifacts : List Path) (names : List String) : Prop where
  /-- Listed are those that are not there. -/
  missing : bundle'.missing = bundle.missing ++ artifacts.filter fun a => !isThere t a
  /-- The copies have these names. -/
  copies : bundle'.artifacts = bundle.artifacts ++ names.map bundle.path.child
  /-- No two names are the same. -/
  nodup : names.Nodup
  /-- They were not taken. -/
  untaken : ∀ n ∈ names, IsName n ∧ n ∉ taken
  /-- All that are there are kept, in order. -/
  kept : List.Forall₂ (Kept t bundle.path b t') (artifacts.filter (isThere t)) names

/-- What stands outside a bundle is not changed when it is filled further. -/
theorem Filled.of_before {t₁ : FileTree}
    (h : Filled t₁ b t' bundle bundle' taken artifacts names) (hw : Writes (inside b) t t₁)
    (ho : ∀ a ∈ artifacts, t.Outside a b) :
    Filled t b t' bundle bundle' taken artifacts names := by
  obtain ⟨hthere, hnot⟩ := filter_isThere_of_writes hw ho
  obtain ⟨hmissing, hartifacts, hnodup, hnames, hkept⟩ := h
  rw [hnot] at hmissing
  rw [hthere] at hkept
  exact ⟨hmissing, hartifacts, hnodup, hnames, hkept.imp fun a n hk => hk.of_before hw⟩

/-- What is written below names that were taken does not touch the copies. -/
theorem Filled.of_writes {t'' : FileTree}
    (h : Filled t b t' bundle bundle' taken artifacts names)
    (hw : Writes (belowNames b taken) t' t'') :
    Filled t b t'' bundle bundle' taken artifacts names := by
  obtain ⟨hmissing, hcopies, hnodup, hnames, hkept⟩ := h
  rw [List.forall₂_iff_zip] at hkept
  refine ⟨hmissing, hcopies, hnodup, hnames, List.forall₂_iff_zip.mpr ⟨hkept.1, ?_⟩⟩
  intro a n hmem
  have huntaken := (hnames n (List.of_mem_zip hmem).2).2
  exact (hkept.2 hmem).of_writes hw (notMem_belowNames huntaken b)

/-- Under each of the names stands a copy. -/
theorem Filled.found (h : Filled t b t' bundle bundle' taken artifacts names)
    (hname : name ∈ names) :
    t'.locate (bundle.path.child name) = .ok (b ++ [name]) := by
  obtain ⟨hlength, hget⟩ := List.forall₂_iff_get.mp h.kept
  obtain ⟨i, hi, rfl⟩ := List.getElem_of_mem hname
  exact (hget i (hlength ▸ hi) hi).found

/-- An artifact that is not there is listed in front of the others. -/
theorem Filled.cons_missing
    (h : Filled t b t' (bundle.noted artifact target false) bundle' (name :: taken) artifacts names)
    (hnot : isThere t artifact = false) :
    Filled t b t' bundle bundle' taken (artifact :: artifacts) names := by
  obtain ⟨hmissing, hartifacts, hnodup, hnames, hkept⟩ := h
  refine ⟨by simpa [Bundle.noted, hnot] using hmissing, hartifacts, hnodup, fun n hn => ?_,
    by simpa [Bundle.noted, hnot] using hkept⟩
  exact (hnames n hn).imp_right fun huntaken hmem => huntaken (List.mem_cons_of_mem _ hmem)

/-- An artifact that is kept comes in front of the others, under a name that they have not. -/
theorem Filled.cons_kept
    (h : Filled t b t' (bundle.noted artifact (bundle.path.child name) true) bundle'
      (name :: taken) artifacts names)
    (hthere : isThere t artifact = true) (hname : IsName name) (huntaken : name ∉ taken)
    (hfirst : Kept t bundle.path b t' artifact name) :
    Filled t b t' bundle bundle' taken (artifact :: artifacts) (name :: names) := by
  obtain ⟨hmissing, hartifacts, hnodup, hnames, hkept⟩ := h
  refine ⟨by simpa [Bundle.noted, hthere] using hmissing,
    by simpa [Bundle.noted] using hartifacts, ?_, ?_, ?_⟩
  · exact List.nodup_cons.mpr ⟨fun hmem => (hnames name hmem).2 List.mem_cons_self, hnodup⟩
  · refine List.forall_mem_cons.mpr ⟨⟨hname, huntaken⟩, fun n hn => ?_⟩
    exact (hnames n hn).imp_right fun huntaken hmem => huntaken (List.mem_cons_of_mem _ hmem)
  · rw [List.filter_cons_of_pos hthere]
    exact .cons hfirst hkept

/-- **All artifacts are copied that are there**, each under a name of its own that was not taken,
and the others are listed. -/
theorem copyArtifacts_spec (bundle : Bundle) (ht : t.Proper) (hp : t.Points bundle.path b)
    (hb : t.entryAt? b = some .directory) (hfree : ∀ n ∉ taken, t.entryAt? (b ++ [n]) = none)
    (hnames : ∀ a ∈ artifacts, a.fileName? ≠ none) (houtside : ∀ a ∈ artifacts, t.Outside a b)
    (h : (copyArtifacts taken bundle artifacts).run t = (.ok bundle', t')) :
    ∃ names, Filled t b t' bundle bundle' taken artifacts names := by
  induction artifacts generalizing taken bundle t with
  | nil =>
    cases h
    exact ⟨[], by simp, by simp, .nil, by simp, .nil⟩
  | cons artifact artifacts ih =>
    obtain ⟨hname, hnames⟩ := List.forall_mem_cons.mp hnames
    obtain ⟨hout, houts⟩ := List.forall_mem_cons.mp houtside
    obtain ⟨name, hname⟩ := Option.ne_none_iff_exists'.mp hname
    have hisName := isName_freeName taken hname
    obtain ⟨huntaken, -⟩ := freeName_spec taken name
    rw [copyArtifacts_cons taken bundle hname] at h
    generalize freeName taken name = name at hisName huntaken h
    obtain ⟨copied, t₁, hcopy, hrest⟩ := exists_of_bind_eq_ok h
    have htarget := fileName?_child_ne_none (p := bundle.path) hisName
    have hfirst : Writes (below (b ++ [name])) t t₁ :=
      (writes_copyArtifact artifact ht (hp.child hb hisName) htarget).of_run hcopy
    have hinside : Writes (inside b) t t₁ := hfirst.mono fun k hk => ⟨name, hk⟩
    obtain ⟨rfl, hkept⟩ := copyArtifact_eq_ok ht (hp.child hb hisName) htarget
      (hfree name huntaken) (fun hthere => by
        simpa using (hout.apart hthere).append [] [name]) hcopy
    -- the other names are still free, and what is written there does not touch the first copy
    have hb₁ := hfirst.sameWays.directories b hb
    have ht₁ := hfirst.proper ht
    have hfree₁ : ∀ n ∉ name :: taken, t₁.entryAt? (b ++ [n]) = none := by
      intro n hn
      obtain ⟨hne, hn⟩ := not_or.mp (mt List.mem_cons.mpr hn)
      have hunwritten := hfirst.entryAt? ((apart_of_ne b hne).notMem_below [])
      rw [List.append_nil] at hunwritten
      rw [hunwritten, hfree n hn]
    have hp₁ : t₁.Points
        (bundle.noted artifact (bundle.path.child name) (isThere t artifact)).path b := by
      rw [noted_path]
      exact hp.of_sameWays hfirst.sameWays
    have hothers : Writes (insideUntaken b (name :: taken)) t₁ t' :=
      (writes_copyArtifacts _ _ artifacts ht₁ hp₁ hb₁).of_run hrest
    obtain ⟨names, hfilled⟩ := ih _ ht₁ hp₁ hb₁ hfree₁ hnames
      (fun a ha => (outside_iff_of_writes hinside).mpr (houts a ha)) hrest
    have hfilled := hfilled.of_before hinside houts
    cases hthere : isThere t artifact with
    | false =>
      rw [hthere] at hfilled
      exact ⟨names, hfilled.cons_missing hthere⟩
    | true =>
      rw [hthere] at hfilled
      obtain ⟨hequal, hfound⟩ := hkept hthere
      have hpresent : t.isPresent artifact = true := (isPresent_eq t artifact).trans hthere
      have hthis : Kept t bundle.path b t' artifact name :=
        Kept.of_writes ⟨hout, hpresent, hequal, hfound⟩ hothers
          (notMem_insideUntaken List.mem_cons_self b)
      exact ⟨name :: names, hfilled.cons_kept hthere hisName huntaken hthis⟩

/-! ## What the tool has written -/

/-- **The log files hold what the tool has written.** -/
theorem read_of_writeLogs {result : ToolResult} (ht : t.Proper) (hp : t.Points path b)
    (hb : t.entryAt? b = some .directory) (h : (writeLogs path result).run t = (.ok (), t')) :
    t'.read (path.child "stdout.log") = .ok result.stdout.toUTF8 ∧
      t'.read (path.child "stderr.log") = .ok result.stderr.toUTF8 := by
  have hstdout : IsName "stdout.log" := by decide
  have hstderr : IsName "stderr.log" := by decide
  rw [writeLogs_eq] at h
  obtain ⟨_, t₁, hfirst, hrest⟩ := exists_of_bind_eq_ok h
  obtain ⟨_, t₂, hsecond, hpure⟩ := exists_of_bind_eq_ok hrest
  cases hpure
  have hw₁ := (writes_writeLog ht hp hb hstdout result.stdout).of_run hfirst
  have hw₂ := (writes_writeLog (hw₁.proper ht) (hp.of_sameWays hw₁.sameWays)
    (hw₁.sameWays.directories b hb) hstderr result.stderr).of_run hsecond
  obtain ⟨-, hread⟩ := sameWays_of_run_writeText (run_adapt_eq_ok_iff.mp hfirst)
  obtain ⟨-, hread'⟩ := sameWays_of_run_writeText (run_adapt_eq_ok_iff.mp hsecond)
  refine ⟨hw₂.read hread ?_, hread'⟩
  -- the second file is written at another place
  rw [placeOf_child hstdout, placeOf_of_workingDir hw₁.sameWays.workingDir, hp.place]
  simp

/-! ## A whole bundle -/

/-- The tree with a new bundle that is still empty. -/
def withBundle (root : Path) (t : FileTree) (b : Location) : FileTree :=
  (withRoot root t).put b .directory

/-- **A bundle holds** the artifacts that were there when it was empty, and what the tool has
written. -/
structure Holds (t t' : FileTree) (bundle : Bundle) (artifacts : List Path)
    (result : Option ToolResult) : Prop where
  /-- Listed are those artifacts that are neither files nor directories. -/
  missing : bundle.missing = artifacts.filter fun a => !(t.isFile a || t.isDir a)
  /-- No two copies have one path. -/
  distinct : bundle.artifacts.Nodup
  /-- Each copy has a name in the bundle, which is not that of a log file. -/
  children : ∀ p ∈ bundle.artifacts, ∃ n, IsName n ∧ n ∉ logNames ∧ p = bundle.path.child n ∧
    t'.locate p = .ok (t'.placeOf bundle.path ++ [n])
  /-- All other artifacts are copied, in order, and the copies are equal. -/
  copies : List.Forall₂
    (fun a p => ∃ l d, t.locate a = .ok l ∧ t'.locate p = .ok d ∧ CopyOf t l t' d)
    (artifacts.filter fun a => t.isFile a || t.isDir a) bundle.artifacts
  /-- The log files hold the two streams. -/
  logs : ∀ r, result = some r →
    t'.read (bundle.path.child "stdout.log") = .ok r.stdout.toUTF8 ∧
      t'.read (bundle.path.child "stderr.log") = .ok r.stderr.toUTF8

/-- **No artifact is lost in a bundle**, and none is overwritten, when they have file names and
stand outside: those that are there are copied, each under a name of its own, and the others are
listed. -/
theorem artifacts_kept {operation : Operation} {project stamp : String} {succeeded : Bool}
    {result : Option ToolResult} (ht : t.Proper)
    (h : (write root operation project succeeded artifacts result stamp).run t = (.ok bundle, t'))
    (hnames : ∀ a ∈ artifacts, a.fileName? ≠ none)
    (houtside : ∀ a ∈ artifacts, t'.Outside a (t'.placeOf bundle.path)) :
    t'.locate bundle.path = .ok (t'.placeOf bundle.path) ∧
      Holds (withBundle root t (t'.placeOf bundle.path)) t' bundle artifacts result := by
  obtain ⟨l, t₁, hnew, hcopy, hlogs⟩ := write_eq_ok h
  obtain ⟨-, ht₀, hdir, hlocate, hempty⟩ := hnew.made (proper_withRoot ht root)
  have hp := points_of_locate hlocate
  -- first the artifacts are copied, and then the log files are written beside them
  have hw₁ := (writes_copyArtifacts logNames ⟨bundle.name, bundle.path, [], []⟩ artifacts ht₀ hp
    hdir).of_run hcopy
  have ht₁ := hw₁.proper ht₀
  have hp₁ := hp.of_sameWays hw₁.sameWays
  have hdir₁ := hw₁.sameWays.directories l hdir
  have hw₂ := (writes_writeLogsOf ht₁ hp₁ hdir₁ result).of_run hlogs
  have hw := writes_of_filled ht₀ hp hdir hcopy hlogs
  have hlocate' : t'.locate bundle.path = .ok l :=
    hw.sameWays.locate_kept hlocate (Or.inr (hw.sameWays.directories l hdir))
  have hplace := placeOf_of_locate hlocate'
  rw [hplace] at houtside ⊢
  obtain ⟨names, hfilled⟩ := copyArtifacts_spec ⟨bundle.name, bundle.path, [], []⟩ ht₀ hp hdir
    (fun n _ => hempty _ ⟨n, List.prefix_rfl⟩) hnames
    (fun a ha => (outside_iff_of_writes hw).mp (houtside a ha)) hcopy
  have hfilled := hfilled.of_writes hw₂
  have hfound : ∀ n ∈ names, t'.locate (bundle.path.child n) = .ok (l ++ [n]) := fun n =>
    hfilled.found
  obtain ⟨hmissing, hartifacts, hnodup, hall, hkept⟩ := hfilled
  dsimp only at hartifacts hmissing
  rw [List.nil_append] at hartifacts hmissing
  refine ⟨hlocate', hmissing, ?_, ?_, ?_, ?_⟩
  · rw [hartifacts]
    exact hnodup.map_on fun n hn m hm heq => Path.child_inj (hall n hn).1 (hall m hm).1 heq
  · rw [hartifacts]
    intro p hmem
    obtain ⟨n, hn, rfl⟩ := List.mem_map.mp hmem
    exact ⟨n, (hall n hn).1, (hall n hn).2, rfl, hplace ▸ hfound n hn⟩
  · rw [hartifacts, List.forall₂_map_right_iff]
    exact hkept.imp fun a n hk => ⟨_, _, locate_of_isPresent hk.isThere, hk.found, hk.equal⟩
  · rintro r rfl
    exact read_of_writeLogs ht₁ hp₁ hdir₁ hlogs

/-- Two waveforms with one name, and a file that is called as a log file. -/
def someOutputs : FileTree :=
  ⟨[(["sim"], .directory), (["sim", "a"], .directory), (["sim", "b"], .directory),
    (["sim", "a", "wave.vcd"], .file ⟨#[1]⟩ false), (["sim", "b", "wave.vcd"], .file ⟨#[2]⟩ true),
    (["sim", "b", "stdout.log"], .file ⟨#[3]⟩ false)], []⟩

/-- Their paths, and that of a file that is not there. -/
def someArtifacts : List Path :=
  [⟨"/sim/a/wave.vcd"⟩, ⟨"/sim/a/../b/wave.vcd"⟩, ⟨"/sim/top.bit"⟩, ⟨"/sim/b/stdout.log"⟩]

/-- What a tool has written. -/
def someResult : ToolResult := ⟨.exited 0, "done", "", default⟩

/-- The call that keeps them. -/
def someCall : Call :=
  ⟨.simulate, "uart", true, someArtifacts, some someResult, "1200_30"⟩

/-- All that are there are kept side by side. -/
theorem artifacts_kept_some :
    ∃ bundle t', (someCall.action ⟨"/old"⟩).run someOutputs = (.ok bundle, t') ∧
      someOutputs.Proper ∧ (∀ a ∈ someArtifacts, a.fileName? ≠ none) ∧
      (∀ a ∈ someArtifacts, t'.Outside a (t'.placeOf bundle.path)) ∧
      bundle.missing = [⟨"/sim/top.bit"⟩] ∧
      bundle.artifacts.map Path.fileName? =
        [some "wave.vcd", some "wave_1.vcd", some "stdout_1.log"] ∧
      Holds (withBundle ⟨"/old"⟩ someOutputs (t'.placeOf bundle.path)) t' bundle someArtifacts
        (some someResult) := by
  have hproper : someOutputs.Proper := ⟨rooted_of_entries (by decide), by decide, by decide⟩
  have hnames : ∀ a ∈ someArtifacts, a.fileName? ≠ none := by decide +kernel
  have hreply : ((someCall.action ⟨"/old"⟩).run someOutputs).1 = .ok
      ⟨"uart_simulate_1200_30", ⟨"/old/uart_simulate_1200_30"⟩,
        [⟨"/old/uart_simulate_1200_30/wave.vcd"⟩,
          ⟨"/old/uart_simulate_1200_30/wave_1.vcd"⟩,
          ⟨"/old/uart_simulate_1200_30/stdout_1.log"⟩],
        [⟨"/sim/top.bit"⟩]⟩ := by
    decide +kernel
  have houtside : ∀ a ∈ someArtifacts,
      ((someCall.action ⟨"/old"⟩).run someOutputs).2.Outside a
        (((someCall.action ⟨"/old"⟩).run someOutputs).2.placeOf
          ⟨"/old/uart_simulate_1200_30"⟩) := by
    decide +kernel
  rcases hrun : (someCall.action ⟨"/old"⟩).run someOutputs with ⟨reply, t'⟩
  rw [hrun] at hreply houtside
  dsimp only at hreply houtside
  subst hreply
  obtain ⟨-, hholds⟩ := artifacts_kept hproper hrun hnames houtside
  exact ⟨_, t', rfl, hproper, hnames, houtside, rfl, by decide +kernel, hholds⟩

end Archive

end RtlFlow
