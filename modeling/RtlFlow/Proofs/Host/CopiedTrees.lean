import RtlFlow.Proofs.Host.Copying
import RtlFlow.Proofs.Host.Fitting
import Mathlib.Algebra.GroupWithZero.Nat

/-! # Copies of directories, from the call to its end

A directory is copied from the top down, and every level makes the paths longer, so the copy comes
to an end before the levels are used up that are allowed for it (`FileAction.suffices_levels`). When
its target lies in the source, the copy meets what it has made and goes on until the paths are too
long (`neverInside`). Anywhere else it succeeds where the paths are short enough (`succeeds`), and
answers the number of files (`countsFiles`). -/

namespace RtlFlow

namespace FileTree

variable {t t' : FileTree} {l k : Location}

/-! ## Counting files -/

/-- **The locations of the files** at a location and below it. -/
def filesBelow (t : FileTree) (l : Location) : List Location :=
  (t.entries.map (·.1)).filter fun k =>
    l.isPrefixOf k && (match t.entryAt? k with | some (.file ..) => true | _ => false)

theorem mem_filesBelow : k ∈ t.filesBelow l ↔
    l <+: k ∧ ∃ content executable, t.entryAt? k = some (.file content executable) := by
  rw [filesBelow, List.mem_filter, Bool.and_eq_true, List.isPrefixOf_iff_prefix]
  constructor
  · rintro ⟨-, hbelow, hfile⟩
    split at hfile
    · rename_i content executable hentry
      exact ⟨hbelow, content, executable, hentry⟩
    · cases hfile
  · rintro ⟨hbelow, content, executable, hentry⟩
    refine ⟨(mem_keys_iff (ne_nil_of_entryAt? (t := t) ?_)).mpr ?_, hbelow, ?_⟩ <;> simp [hentry]

theorem Proper.nodup_filesBelow (ht : t.Proper) (l : Location) : (t.filesBelow l).Nodup :=
  ht.nodup.filter _

/-- As many files stand where the same stands. -/
theorem length_filesBelow_congr (ht : t.Proper) (ht' : t'.Proper)
    (h : ∀ k, t'.entryAt? (l ++ k) = t.entryAt? (l ++ k)) :
    (t'.filesBelow l).length = (t.filesBelow l).length := by
  refine List.Perm.length_eq ((List.perm_ext_iff_of_nodup (ht'.nodup_filesBelow l)
    (ht.nodup_filesBelow l)).mpr fun k => ?_)
  rw [mem_filesBelow, mem_filesBelow]
  refine and_congr_right ?_
  rintro ⟨k, rfl⟩
  rw [h k]

/-- Below a file stands none. -/
theorem length_filesBelow_file (ht : t.Proper) {content : ByteArray} {executable : Bool}
    (hl : t.entryAt? l = some (.file content executable)) : (t.filesBelow l).length = 1 := by
  have hperm : (t.filesBelow l).Perm [l] := by
    refine (List.perm_ext_iff_of_nodup (ht.nodup_filesBelow l) (List.nodup_singleton l)).mpr
      fun k => ?_
    rw [mem_filesBelow, List.mem_singleton]
    constructor
    · rintro ⟨hbelow, content, executable, hk⟩
      by_contra hne
      have hdir := ht.rooted.directory_of_below (by simp [hk]) hbelow (Ne.symm hne)
      simp [hl] at hdir
    · rintro rfl
      exact ⟨List.prefix_rfl, content, executable, hl⟩
  exact hperm.length_eq

/-- **The files below a directory** are those at its entries and below them. -/
theorem length_filesBelow_directory (ht : t.Proper) (hl : t.entryAt? l = some .directory) :
    (t.filesBelow l).length =
      ((t.namesIn l).map fun s => (t.filesBelow (l ++ [s])).length).sum := by
  have hnodup : ((t.namesIn l).flatMap fun s => t.filesBelow (l ++ [s])).Nodup := by
    refine List.nodup_flatMap.mpr ⟨fun s _ => ht.nodup_filesBelow _, ?_⟩
    refine (ht.nodup_namesIn l).imp fun {s s'} hne k hk hk' => ?_
    -- no location lies below two names
    have hapart := apart_of_ne l hne
    exact (List.prefix_or_prefix_of_prefix (mem_filesBelow.mp hk).1
      (mem_filesBelow.mp hk').1).elim hapart.1 hapart.2
  have hperm : (t.filesBelow l).Perm ((t.namesIn l).flatMap fun s => t.filesBelow (l ++ [s])) := by
    refine (List.perm_ext_iff_of_nodup (ht.nodup_filesBelow l) hnodup).mpr fun k => ?_
    simp only [List.mem_flatMap, mem_filesBelow]
    constructor
    · rintro ⟨⟨_ | ⟨s, k⟩, rfl⟩, content, executable, hk⟩
      · simp [hl] at hk
      · refine ⟨s, ?_, ⟨k, by simp⟩, content, executable, hk⟩
        by_contra hs
        have hfree := ht.rooted.free_of_notMem_namesIn hs k
        rw [List.append_assoc, List.singleton_append, hk] at hfree
        cases hfree
    · rintro ⟨s, -, hbelow, hfile⟩
      exact ⟨(List.prefix_append l [s]).trans hbelow, hfile⟩
  rw [hperm.length_eq, List.length_flatMap]

end FileTree

namespace FileAction

open FileTree
open RtlFlow.Path (IsName)
open Host (copyTreeWithin copyTree ensureDir)

variable {t t' : FileTree} {l d : Location} {source target : Path} {names : List String}
  {fuel more n count : Nat} {s : String}

/-- The entry of a directory is copied, and the number of files is added. -/
theorem run_copyEntry (fuel : Nat) (source target : Path) (count : Nat) (s : String)
    (t : FileTree) : (copyEntry fuel source target count s).run t =
      match (copyTreeWithin fuel (source.child s) (target.child s)).run t with
      | (.ok m, t') => (.ok (count + m), t')
      | (.error e, t') => (.error e, t') := by
  rw [copyEntry, run_bind]
  rcases (copyTreeWithin fuel (source.child s) (target.child s)).run t with ⟨e | m, t'⟩ <;> rfl

/-- The entries of a directory are copied one after the other. -/
theorem run_foldlM_copyEntry_cons (fuel : Nat) (source target : Path) (count : Nat) (s : String)
    (names : List String) (t : FileTree) :
    ((s :: names).foldlM (copyEntry fuel source target) count).run t =
      match (copyTreeWithin fuel (source.child s) (target.child s)).run t with
      | (.ok m, t') => (names.foldlM (copyEntry fuel source target) (count + m)).run t'
      | (.error e, t') => (.error e, t') := by
  rw [List.foldlM_cons, run_bind, run_copyEntry]
  rcases (copyTreeWithin fuel (source.child s) (target.child s)).run t with ⟨e | m, t'⟩ <;> rfl

/-! ## The end of a copy -/

/-- The text of a path that leads somewhere is short enough. -/
theorem size_lt_of_isDir {p : Path} (h : t.isDir p = true) : p.text.utf8ByteSize < maxPath := by
  obtain ⟨⟨-, -, hlong⟩, -⟩ := locate_eq_ok_iff.mp (exists_locate_of_isDir h).1
  omega

/-- **More levels change nothing**, where no path can be so long that the levels do not suffice. -/
def Suffices (fuel : Nat) : Prop :=
  ∀ {t : FileTree} {source target : Path} {d : Location} {more : Nat}, t.Proper →
    t.Points target d → target.text ≠ "" → t.isDir source = true ∨ target.fileName? ≠ none →
    0 < fuel → maxPath < fuel + source.text.utf8ByteSize → fuel ≤ more →
    (copyTreeWithin more source target).run t = (copyTreeWithin fuel source target).run t

theorem foldlM_copyEntry_of_le (hfuel : Suffices fuel) (ht : t.Proper) (hp : t.Points target d)
    (hd : t.entryAt? d = some .directory) (hnames : ∀ s ∈ names, IsName s) (hpos : 0 < fuel)
    (hsize : maxPath ≤ fuel + source.text.utf8ByteSize) (hmore : fuel ≤ more) :
    (names.foldlM (copyEntry more source target) count).run t =
      (names.foldlM (copyEntry fuel source target) count).run t := by
  induction names generalizing t count with
  | nil => rfl
  | cons s names ih =>
    obtain ⟨hs, hrest⟩ := List.forall_mem_cons.mp hnames
    have hchild := fileName?_child_ne_none (p := target) hs
    have hlonger := Path.size_lt_size_child (p := source) hs
    have hfirst : (copyTreeWithin more (source.child s) (target.child s)).run t =
        (copyTreeWithin fuel (source.child s) (target.child s)).run t :=
      hfuel ht (hp.child hd hs) (text_ne_of_fileName? hchild) (Or.inr hchild) hpos (by omega) hmore
    rw [run_foldlM_copyEntry_cons, run_foldlM_copyEntry_cons, hfirst]
    rcases hcopy : (copyTreeWithin fuel (source.child s) (target.child s)).run t with ⟨e | m, t₁⟩
    · rfl
    · have hw := writes_of_copied_entry ht hp hd hs hcopy
      exact ih (hw.proper ht) (hp.of_sameWays hw.sameWays) (hw.sameWays.directories d hd) hrest

/-- **A copy comes to an end** before the levels are used up that are allowed for it: each level
makes the path of the source longer, and a path that is too long leads nowhere. -/
theorem suffices_levels (fuel : Nat) : Suffices fuel := by
  induction fuel with
  | zero => exact fun _ _ _ _ hpos => absurd hpos (Nat.lt_irrefl 0)
  | succ fuel ih =>
    intro t source target d more ht hp htext hname _ hsize hmore
    obtain ⟨more, rfl⟩ := Nat.exists_eq_add_of_lt hmore
    by_cases hdir : t.isDir source = true
    · have hshort := size_lt_of_isDir hdir
      rcases hensure : (ensureDir target).run t with ⟨e | ⟨⟩, t₁⟩
      · rw [run_copyTreeWithin_of_error hdir hensure, run_copyTreeWithin_of_error hdir hensure]
      · obtain ⟨hw, hd₁⟩ := writes_of_ensured ht hp htext hensure
        have ht₁ := hw.proper ht
        rw [run_copyTreeWithin_of_ok hdir hensure, run_copyTreeWithin_of_ok hdir hensure]
        exact foldlM_copyEntry_of_le ih ht₁ (hp.of_sameWays hw.sameWays) hd₁
          (fun s hs => isName_of_mem_namesAt ht₁ hs) (by omega) (by omega) (by omega)
    · rw [run_copyTreeWithin_succ, run_copyTreeWithin_succ, if_neg hdir, if_neg hdir]

/-! ## A target inside the source -/

/-- **A directory is not copied into itself.** -/
def NeverInside (fuel : Nat) : Prop :=
  ∀ {t t' : FileTree} {source target : Path} {l d : Location} {n : Nat}, t.Proper →
    t.Points target d → target.text ≠ "" → t.isDir source = true → t.placeOf source = l →
    l <+: d → l ≠ d → (copyTreeWithin fuel source target).run t ≠ (.ok n, t')

/-- The entries of a directory are not copied when one of them is not, whatever was written
before. -/
theorem foldlM_copyEntry_ne_ok (ht : t.Proper) (hp : t.Points target d)
    (hd : t.entryAt? d = some .directory) (hnames : ∀ s ∈ names, IsName s) (hs : s ∈ names)
    (hnever : ∀ t₁ m t₂, Writes (below d) t t₁ →
      (copyTreeWithin fuel (source.child s) (target.child s)).run t₁ ≠ (.ok m, t₂)) :
    (names.foldlM (copyEntry fuel source target) count).run t ≠ (.ok n, t') := by
  induction names generalizing t count with
  | nil => cases hs
  | cons s' names ih =>
    obtain ⟨hs', hrest⟩ := List.forall_mem_cons.mp hnames
    intro h
    rw [run_foldlM_copyEntry_cons] at h
    rcases hcopy : (copyTreeWithin fuel (source.child s') (target.child s')).run t with ⟨e | m, t₁⟩
      <;> rw [hcopy] at h
    · cases h
    · rcases List.mem_cons.mp hs with rfl | hs
      · exact hnever t m t₁ (.refl _ t) hcopy
      · have hw := writes_of_copied_entry ht hp hd hs' hcopy
        have hw' : Writes (below d) t t₁ :=
          hw.mono fun k hk => (List.prefix_append d [s']).trans hk
        exact ih (hw.proper ht) (hp.of_sameWays hw.sameWays) (hw.sameWays.directories d hd) hrest
          hs (fun t₂ m t₃ hw₂ => hnever t₂ m t₃ (hw'.trans hw₂)) h

/-- **A directory is not copied into itself**: among its entries the way to the target is copied,
again into itself, until the paths are too long. -/
theorem neverInside (fuel : Nat) : NeverInside fuel := by
  -- on the levels: the first name on the way from the source to the target is copied one level less
  induction fuel with
  | zero =>
    intro t t' source target l d n _ _ _ _ _ _ _ h
    cases h
  | succ fuel ih =>
    intro t t' source target l d n ht hp htext hdir hsource hinside hne h
    rcases hensure : (ensureDir target).run t with ⟨e | ⟨⟩, t₁⟩
    · rw [run_copyTreeWithin_of_error hdir hensure] at h
      cases h
    obtain ⟨hw, hd₁⟩ := writes_of_ensured ht hp htext hensure
    have ht₁ := hw.proper ht
    have hp₁ := hp.of_sameWays hw.sameWays
    rw [run_copyTreeWithin_of_ok hdir hensure] at h
    obtain ⟨hlocate, hl⟩ := exists_locate_of_isDir hdir
    rw [hsource] at hlocate hl
    have hlocate₁ : t₁.locate source = .ok l :=
      hw.sameWays.locate_kept hlocate (Or.inr (hw.sameWays.directories l hl))
    -- the first name on the way to the target is one of the entries
    obtain ⟨_ | ⟨s, k⟩, rfl⟩ := hinside
    · simp at hne
    have hway : t₁.entryAt? (l ++ [s]) = some .directory := by
      cases k with
      | nil => exact hd₁
      | cons s' k =>
        exact ht₁.rooted.directory_of_below (m := l ++ s :: s' :: k) (by simp [hd₁])
          ⟨s' :: k, by simp⟩ (by simp)
    have hs : s ∈ namesAt t₁ source := by
      rw [namesAt, hlocate₁]
      exact mem_namesIn.mpr (by simp [hway])
    have hname := isName_of_mem_namesAt ht₁ hs
    refine foldlM_copyEntry_ne_ok ht₁ hp₁ hd₁ (fun s hs => isName_of_mem_namesAt ht₁ hs) hs ?_ h
    intro t₂ m t₃ hw₂ hcopy
    have hp₂ := (hp₁.of_sameWays hw₂.sameWays).child (hw₂.sameWays.directories _ hd₁) hname
    have hchild := fileName?_child_ne_none (p := target) hname
    have hplace : t₂.placeOf (source.child s) = l ++ [s] := by
      rw [placeOf_child hname, placeOf_of_workingDir hw₂.sameWays.workingDir,
        placeOf_of_locate hlocate₁]
    have hne : l ++ [s] ≠ l ++ s :: k ++ [s] := fun heq => by simpa using congrArg List.length heq
    by_cases hsub : t₂.isDir (source.child s) = true
    · exact ih (hw₂.proper ht₁) hp₂ (text_ne_of_fileName? hchild) hsub hplace
        ⟨k ++ [s], by simp⟩ hne hcopy
    · -- a path that is too long leads to no directory, and a directory is not copied as a file
      cases fuel with
      | zero => cases hcopy
      | succ fuel =>
        rw [run_copyTreeWithin_succ, if_neg hsub] at hcopy
        obtain ⟨_, _, hfile, -⟩ := exists_of_bind_eq_ok hcopy
        obtain ⟨_, content, executable, -, hentry, -⟩ :=
          exists_of_copyFile_eq_ok (hw₂.proper ht₁) hp₂ hchild hplace hne hfile
        rw [hw₂.sameWays.directories _ hway] at hentry
        cases hentry

/-! ## The number of files copied -/

/-- **The answer of a copy** is the number of files at its source and below it. -/
def CountsFiles (fuel : Nat) : Prop :=
  ∀ {t t' : FileTree} {source target : Path} {l d : Location} {n : Nat}, t.Proper →
    t.Points target d → target.text ≠ "" → t.isDir source = true ∨ target.fileName? ≠ none →
    t.placeOf source = l → Apart l d →
    (copyTreeWithin fuel source target).run t = (.ok n, t') → n = (t.filesBelow l).length

/-- Each entry of a directory that is copied counts with its files. -/
theorem eq_of_foldlM_copyEntry (hfuel : CountsFiles fuel) (ht : t.Proper) (hp : t.Points target d)
    (hd : t.entryAt? d = some .directory) (hnames : ∀ s ∈ names, IsName s)
    (hsource : t.placeOf source = l) (hapart : Apart l d)
    (h : (names.foldlM (copyEntry fuel source target) count).run t = (.ok n, t')) :
    n = count + (names.map fun s => (t.filesBelow (l ++ [s])).length).sum := by
  -- on the names: the files of those that come later are counted as they were at the start
  induction names generalizing t count with
  | nil =>
    cases h
    rfl
  | cons s names ih =>
    obtain ⟨hs, hrest⟩ := List.forall_mem_cons.mp hnames
    rw [run_foldlM_copyEntry_cons] at h
    rcases hcopy : (copyTreeWithin fuel (source.child s) (target.child s)).run t with ⟨e | m, t₁⟩
      <;> rw [hcopy] at h
    · cases h
    · have hw := writes_of_copied_entry ht hp hd hs hcopy
      have ht₁ := hw.proper ht
      have hchild := fileName?_child_ne_none (p := target) hs
      have hm := hfuel ht (hp.child hd hs) (text_ne_of_fileName? hchild) (Or.inr hchild)
        (by rw [placeOf_child hs, hsource]) (hapart.append [s] [s]) hcopy
      have hn := ih ht₁ (hp.of_sameWays hw.sameWays) (hw.sameWays.directories d hd) hrest
        ((placeOf_of_workingDir hw.sameWays.workingDir source).trans hsource) h
      -- the sources of the others are as they were
      have hsame : ∀ r, (t₁.filesBelow (l ++ [r])).length = (t.filesBelow (l ++ [r])).length :=
        fun r => length_filesBelow_congr ht ht₁ fun k =>
          hw.entryAt? ((hapart.append [r] [s]).notMem_below k)
      simp only [hsame] at hn
      rw [hn, hm, List.map_cons, List.sum_cons, Nat.add_assoc]

/-- **A copy answers the number of files copied.** -/
theorem countsFiles (fuel : Nat) : CountsFiles fuel := by
  induction fuel with
  | zero =>
    intro t t' source target l d n _ _ _ _ _ _ h
    cases h
  | succ fuel ih =>
    intro t t' source target l d n ht hp htext hname hsource hapart h
    have hne : l ≠ d := fun heq => hapart.1 (heq ▸ List.prefix_rfl)
    by_cases hdir : t.isDir source = true
    · rcases hensure : (ensureDir target).run t with ⟨e | ⟨⟩, t₁⟩
      · rw [run_copyTreeWithin_of_error hdir hensure] at h
        cases h
      obtain ⟨hw, hd₁⟩ := writes_of_ensured ht hp htext hensure
      have ht₁ := hw.proper ht
      rw [run_copyTreeWithin_of_ok hdir hensure] at h
      obtain ⟨hlocate, hl⟩ := exists_locate_of_isDir hdir
      rw [hsource] at hlocate hl
      have hl₁ := hw.sameWays.directories l hl
      have hlocate₁ : t₁.locate source = .ok l := hw.sameWays.locate_kept hlocate (Or.inr hl₁)
      have hnames : ∀ s ∈ namesAt t₁ source, IsName s := fun s => isName_of_mem_namesAt ht₁
      rw [namesAt, hlocate₁] at h hnames
      -- the new directory stands apart, so the files of the source are counted as they were
      have hn := eq_of_foldlM_copyEntry ih ht₁ (hp.of_sameWays hw.sameWays) hd₁ hnames
        (placeOf_of_locate hlocate₁) hapart h
      rw [hn, Nat.zero_add, ← length_filesBelow_directory ht₁ hl₁]
      exact length_filesBelow_congr ht ht₁ fun k =>
        hw.entryAt? fun heq => hapart.1 (heq ▸ List.prefix_append l k)
    · rw [run_copyTreeWithin_succ, if_neg hdir] at h
      obtain ⟨_, t₁, hfile, hpure⟩ := exists_of_bind_eq_ok h
      cases hpure
      obtain ⟨_, content, executable, -, hentry, -⟩ :=
        exists_of_copyFile_eq_ok ht hp (hname.resolve_left hdir) hsource hne hfile
      exact (length_filesBelow_file ht hentry).symm

/-! ## Copies that succeed -/

/-- **A copy succeeds** to a free place apart, where all paths are short enough. -/
def Succeeds (fuel : Nat) : Prop :=
  ∀ {t : FileTree} {source target : Path} {l d : Location}, t.Proper → t.locate source = .ok l →
    t.entryAt? l ≠ none → t.locate target = .ok d →
    t.entryAt? l = some .directory ∨ target.fileName? ≠ none ∧ endsInSeparator target = false →
    Apart l d → t.entryAt? d = none → t.Fits l source → t.Fits l target →
    maxPath < fuel + source.text.utf8ByteSize →
    ∃ n t', (copyTreeWithin fuel source target).run t = (.ok n, t')

/-- The entries of a directory are copied one after the other, when each of them can be. -/
theorem exists_run_foldlM_copyEntry (hfuel : Succeeds fuel) (ht : t.Proper)
    (hsource : t.locate source = .ok l) (hl : t.entryAt? l = some .directory)
    (htarget : t.locate target = .ok d) (hd : t.entryAt? d = some .directory) (hapart : Apart l d)
    (hthere : ∀ s ∈ names, t.entryAt? (l ++ [s]) ≠ none) (hnodup : names.Nodup)
    (hfree : ∀ s ∈ names, t.entryAt? (d ++ [s]) = none) (hfits : t.Fits l source)
    (hfits' : t.Fits l target) (hsize : maxPath ≤ fuel + source.text.utf8ByteSize) :
    ∃ n t', (names.foldlM (copyEntry fuel source target) count).run t = (.ok n, t') := by
  induction names generalizing t count with
  | nil => exact ⟨count, t, rfl⟩
  | cons s names ih =>
    obtain ⟨hs, hrest⟩ := List.forall_mem_cons.mp hthere
    obtain ⟨hnotMem, hnodup⟩ := List.nodup_cons.mp hnodup
    obtain ⟨hfree, hfrees⟩ := List.forall_mem_cons.mp hfree
    have hname : IsName s := ht.isName hs (by simp)
    obtain ⟨hlegal, hshort⟩ := hfits [s] hs
    obtain ⟨-, hshort'⟩ := hfits' [s] hs
    have hlegal := hlegal s (by simp)
    have hlonger := Path.size_lt_size_child (p := source) hname
    have hend : endsInSeparator (target.child s) = false := by
      simpa [endsInSeparator] using Path.getLast?_text_child hname
    obtain ⟨m, t₁, hcopy⟩ := hfuel ht (locate_child hsource hl hname hlegal hshort) hs
      (locate_child htarget hd hname hlegal hshort')
      (Or.inr ⟨fileName?_child_ne_none hname, hend⟩) (hapart.append [s] [s]) hfree
      (hfits.child s) (hfits'.child s) (by omega)
    have hw := writes_of_copied_entry ht (points_of_locate htarget) hd hname hcopy
    -- at the source all is as it was, and at the target the other names are still free
    have hkept : ∀ k, t₁.entryAt? (l ++ k) = t.entryAt? (l ++ k) := fun k => by
      have hapart₁ := hapart.append [] [s]
      rw [List.append_nil] at hapart₁
      exact hw.entryAt? (hapart₁.notMem_below k)
    have hl₁ := hw.sameWays.directories l hl
    have hd₁ := hw.sameWays.directories d hd
    rw [run_foldlM_copyEntry_cons, hcopy]
    refine ih (hw.proper ht) (hw.sameWays.locate_kept hsource (Or.inr hl₁)) hl₁
      (hw.sameWays.locate_kept htarget (Or.inr hd₁)) hd₁ (fun r hr => ?_) hnodup (fun r hr => ?_)
      (hfits.congr hkept) (hfits'.congr hkept)
    · rw [hkept [r]]
      exact hrest r hr
    · have hne : r ≠ s := fun heq => hnotMem (heq ▸ hr)
      have hother := hw.entryAt? ((apart_of_ne d hne).notMem_below [])
      rw [List.append_nil] at hother
      rw [hother, hfrees r hr]

/-- **A copy succeeds** to a free place apart, where all paths are short enough. -/
theorem succeeds (fuel : Nat) : Succeeds fuel := by
  induction fuel with
  | zero =>
    intro t source target l d _ hsource _ _ _ _ _ _ _ hsize
    obtain ⟨⟨-, -, hlong⟩, -⟩ := locate_eq_ok_iff.mp hsource
    omega
  | succ fuel ih =>
    intro t source target l d ht hsource hthere htarget hkind hapart hfree hfits hfits' hsize
    obtain ⟨⟨-, hempty, -⟩, -⟩ := locate_eq_ok_iff.mp htarget
    rcases hl : t.entryAt? l with - | (⟨content, executable⟩ | -)
    · exact absurd hl hthere
    · -- a file
      obtain ⟨hname, hend⟩ := hkind.resolve_left (by simp [hl])
      have hdir : ¬ t.isDir source = true := by simp [isDir, get?, hsource, hl]
      obtain ⟨t', hcopy⟩ := exists_run_copyFile hsource hl hname
        (fileSpot_eq_ok_iff.mpr ⟨htarget, by simp [hfree], hend⟩)
      refine ⟨1, t', ?_⟩
      rw [run_copyTreeWithin_succ, if_neg hdir, run_bind, hcopy]
      rfl
    · -- a directory
      have hdir : t.isDir source = true := by simp [isDir, get?, hsource, hl]
      have htext : target.text ≠ "" := by simpa using hempty
      have hp := points_of_locate htarget
      obtain ⟨t₁, hensure⟩ := exists_run_ensureDir htarget (by simp [hfree])
      obtain ⟨hw, hd₁⟩ := writes_of_ensured ht hp htext hensure
      have ht₁ := hw.proper ht
      have htarget₁ := (locate_of_ensureDir htext hensure).1
      rw [hp.place] at htarget₁
      have hl₁ := hw.sameWays.directories l hl
      have hsource₁ := hw.sameWays.locate_kept hsource (Or.inr hl₁)
      have hkept : ∀ k, t₁.entryAt? (l ++ k) = t.entryAt? (l ++ k) := fun k =>
        hw.entryAt? fun heq => hapart.1 (heq ▸ List.prefix_append l k)
      have hempty₁ : ∀ s, t₁.entryAt? (d ++ [s]) = none := fun s => by
        rw [hw.entryAt? (by simp), ht.rooted.free_below (by simp [hfree]) (by simp)]
      rw [run_copyTreeWithin_of_ok hdir hensure, namesAt, hsource₁]
      exact exists_run_foldlM_copyEntry ih ht₁ hsource₁ hl₁ htarget₁ hd₁ hapart
        (fun s hs => mem_namesIn.mp hs) (ht₁.nodup_namesIn l) (fun s _ => hempty₁ s)
        (hfits.congr hkept) (hfits'.congr hkept) (by omega)

/-! ## Whole directories -/

variable {bundle : Path} {name : String}

/-- A directory is not copied to a place in itself. -/
theorem copyTree_ne_ok_of_inside (ht : t.Proper) (hsource : t.isDir source = true)
    (hbundle : t.isDir bundle = true) (hname : IsName name)
    (hinside : t.placeOf source <+: t.placeOf bundle) :
    (copyTree source (bundle.child name)).run t ≠ (.ok n, t') := by
  obtain ⟨hlocate, hb⟩ := exists_locate_of_isDir hbundle
  have hp := (points_of_locate hlocate).child hb hname
  rw [run_copyTree hsource]
  refine neverInside maxPath ht hp.join_empty
    (text_join_empty_ne (text_ne_of_fileName? (fileName?_child_ne_none hname))) hsource rfl
    (hinside.trans (List.prefix_append _ _)) fun heq => ?_
  have hlength := hinside.length_le
  rw [heq, List.length_append, List.length_singleton] at hlength
  omega

/-- **What the copy of a directory does**, from `l` to `d`. -/
structure CopiesTree (t : FileTree) (source target : Path) (l d : Location) : Prop where
  /-- It comes to an end: with more levels than are allowed for it nothing would change. -/
  ends : ∀ fuel ≥ maxPath,
    (copyTreeWithin fuel source (target.join ⟨""⟩)).run t = (copyTree source target).run t
  /-- Whether it succeeds or not, nothing changes but at its target and below it. -/
  frame : ∀ k, ¬ d <+: k → ((copyTree source target).run t).2.entryAt? k = t.entryAt? k
  /-- When it succeeds, at the target stands what stood at the source, and the answer is the number
  of files. -/
  equal : ∀ n t', (copyTree source target).run t = (.ok n, t') →
    CopyOf t l t' d ∧ t'.locate target = .ok d ∧ n = (t.filesBelow l).length
  /-- It does not succeed when the target lies in the source. -/
  inside : l <+: d → ∀ n t', (copyTree source target).run t ≠ (.ok n, t')
  /-- It succeeds when the target lies elsewhere, and all names and paths are short enough. -/
  succeeds : ¬ l <+: d → (∀ s, target.fileName? = some s → FitsName s) → t.Fits l source →
    t.Fits l (target.join ⟨""⟩) → ∃ n t', (copyTree source target).run t = (.ok n, t')

/-- **A directory is copied** to a free name in a directory: it ends, and when the target does not
lie in the source and the paths are short enough, it makes an equal copy. -/
theorem copiesTree (ht : t.Proper) (hsource : t.isDir source = true)
    (hbundle : t.isDir bundle = true) (hname : IsName name)
    (hfree : t.entryAt? (t.placeOf bundle ++ [name]) = none) :
    CopiesTree t source (bundle.child name) (t.placeOf source) (t.placeOf bundle ++ [name]) := by
  obtain ⟨hlocate, hb⟩ := exists_locate_of_isDir hbundle
  obtain ⟨hlocate', hl⟩ := exists_locate_of_isDir hsource
  have hp := (points_of_locate hlocate).child hb hname
  have htext := text_ne_of_fileName? (fileName?_child_ne_none (p := bundle) hname)
  have hsize : maxPath < maxPath + source.text.utf8ByteSize := by
    obtain ⟨⟨-, hempty, -⟩, -⟩ := locate_eq_ok_iff.mp hlocate'
    have hpos : source.text.utf8ByteSize ≠ 0 := by
      simpa [String.utf8ByteSize_eq_zero_iff] using hempty
    omega
  -- what stands at the source does not stand below a free place
  have hnotBelow : ¬ t.placeOf bundle ++ [name] <+: t.placeOf source := by
    intro hbelow
    by_cases heq : t.placeOf bundle ++ [name] = t.placeOf source
    · rw [heq, hl] at hfree
      cases hfree
    · rw [ht.rooted.directory_of_below (by simp [hl]) hbelow heq] at hfree
      cases hfree
  have hinside : t.placeOf source <+: t.placeOf bundle ++ [name] → ∀ n t',
      (copyTree source (bundle.child name)).run t ≠ (.ok n, t') := by
    intro hbelow n t'
    rcases List.prefix_concat_iff.mp hbelow with heq | hbelow
    · exact absurd (heq ▸ List.prefix_rfl) hnotBelow
    · exact copyTree_ne_ok_of_inside ht hsource hbundle hname hbelow
  exact {
    ends := fun fuel hfuel => by
      rw [run_copyTree hsource]
      exact suffices_levels maxPath ht hp.join_empty (text_join_empty_ne htext) (Or.inl hsource)
        (by decide) hsize hfuel
    frame := fun k hk => (writes_copyTree ht hp htext hsource).entryAt? hk
    equal := fun n t' hrun => by
      have hapart : Apart (t.placeOf source) (t.placeOf bundle ++ [name]) :=
        ⟨fun hbelow => hinside hbelow n t' hrun, hnotBelow⟩
      obtain ⟨hcopy, hfound⟩ := copyOf_copyTree ht hp htext hsource rfl hapart hfree hrun
      rw [run_copyTree hsource] at hrun
      exact ⟨hcopy, hfound, countsFiles maxPath ht hp.join_empty (text_join_empty_ne htext)
        (Or.inl hsource) rfl hapart hrun⟩
    inside := hinside
    succeeds := fun hnotInside hlegal hfits hfits' => by
      have hshort : ((bundle.child name).join ⟨""⟩).text.utf8ByteSize < maxPath :=
        (hfits' [] (by simp [hl])).2
      have hshort' : (bundle.child name).text.utf8ByteSize < maxPath := by
        obtain ⟨rest, hrest⟩ := Path.exists_text_join_empty (bundle.child name)
        rw [hrest, String.utf8ByteSize_append] at hshort
        omega
      have htarget := locate_child hlocate hb hname
        (hlegal name (Path.fileName?_child hname)) hshort'
      rw [run_copyTree hsource]
      exact succeeds maxPath ht hlocate' (by simp [hl])
        (locate_join_empty htarget (by simp [hfree]) hshort) (Or.inl hl)
        ⟨hnotInside, hnotBelow⟩ hfree hfits hfits' hsize }

/-- Outputs of a simulation, with a bundle beside them and one among them. -/
def outputsAndBundles : FileTree :=
  ⟨[(["sim"], .directory), (["sim", "top.bit"], .file ⟨#[1]⟩ false),
    (["sim", "archive"], .directory), (["sim", "archive", "b"], .directory), (["b"], .directory)],
    []⟩

theorem proper_outputsAndBundles : outputsAndBundles.Proper :=
  ⟨rooted_of_entries (by decide), by decide, by decide⟩

/-- The outputs are copied into the bundle beside them. -/
theorem copiesTree_beside :
    let t := outputsAndBundles
    let target := (⟨"/b"⟩ : Path).child "sim"
    (t.Proper ∧ t.isDir ⟨"/sim"⟩ = true ∧ t.isDir ⟨"/b"⟩ = true ∧ IsName "sim" ∧
      t.entryAt? (t.placeOf ⟨"/b"⟩ ++ ["sim"]) = none) ∧
      CopiesTree t ⟨"/sim"⟩ target (t.placeOf ⟨"/sim"⟩) (t.placeOf ⟨"/b"⟩ ++ ["sim"]) ∧
      ∃ t', (copyTree ⟨"/sim"⟩ target).run t = (.ok 1, t') := by
  intro t target
  have hsource : t.isDir ⟨"/sim"⟩ = true := by decide +kernel
  have hbundle : t.isDir ⟨"/b"⟩ = true := by decide +kernel
  have hfree : t.entryAt? (t.placeOf ⟨"/b"⟩ ++ ["sim"]) = none := by decide +kernel
  have hname : IsName "sim" := by decide
  have hcopies := copiesTree proper_outputsAndBundles hsource hbundle hname hfree
  have hplace : t.placeOf ⟨"/sim"⟩ = ["sim"] := by decide +kernel
  refine ⟨⟨proper_outputsAndBundles, hsource, hbundle, hname, hfree⟩, hcopies, ?_⟩
  have hfits : t.Fits ["sim"] ⟨"/sim"⟩ := fits_of_entries (by simp) (by decide +kernel)
  have hfits' : t.Fits ["sim"] (target.join ⟨""⟩) := fits_of_entries (by simp) (by decide +kernel)
  obtain ⟨n, t', hrun⟩ := hcopies.succeeds (by decide +kernel)
    (fun s hs => by
      rw [Path.fileName?_child hname] at hs
      exact Option.some.inj hs ▸ by decide) (hplace ▸ hfits) (hplace ▸ hfits')
  obtain ⟨-, -, hn⟩ := hcopies.equal n t' hrun
  have hone : (t.filesBelow (t.placeOf ⟨"/sim"⟩)).length = 1 := by decide +kernel
  exact ⟨t', by rw [hrun, hn, hone]⟩

/-- **Not every directory is copied**: the one in which its own bundle stands is not. -/
theorem not_forall_copied :
    ¬ ∀ (t : FileTree) (source bundle : Path) (name : String), t.Proper →
      t.isDir source = true → t.isDir bundle = true → IsName name →
      t.entryAt? (t.placeOf bundle ++ [name]) = none →
      ∃ n t', (copyTree source (bundle.child name)).run t = (.ok n, t') ∧
        CopyOf t (t.placeOf source) t' (t.placeOf bundle ++ [name]) ∧
        n = (t.filesBelow (t.placeOf source)).length := by
  intro hall
  have hsource : outputsAndBundles.isDir ⟨"/sim"⟩ = true := by decide +kernel
  have hbundle : outputsAndBundles.isDir ⟨"/sim/archive/b"⟩ = true := by decide +kernel
  obtain ⟨n, t', hrun, -⟩ := hall outputsAndBundles ⟨"/sim"⟩ ⟨"/sim/archive/b"⟩ "sim"
    proper_outputsAndBundles hsource hbundle (by decide) (by decide +kernel)
  have hinside : outputsAndBundles.placeOf ⟨"/sim"⟩ <+:
      outputsAndBundles.placeOf ⟨"/sim/archive/b"⟩ := by
    decide +kernel
  exact copyTree_ne_ok_of_inside proper_outputsAndBundles hsource hbundle (by decide) hinside hrun

end FileAction

end RtlFlow
