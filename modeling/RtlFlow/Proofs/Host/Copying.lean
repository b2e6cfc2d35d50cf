import RtlFlow.Proofs.Host.Writes
import Mathlib.Data.List.Perm.Basic

/-! # Copies of files and directories

A file or a directory that is copied to a free place stands there as it stands at its own
(`FileTree.CopyOf`), with all below it, when neither of the two places lies in the other; and below
other places than the new one nothing changes. A directory is copied entry by entry, so the proof
follows the entries and, in them, the directories on the way down. -/

namespace RtlFlow

namespace FileTree

open RtlFlow.Path (IsName)

variable {t t' : FileTree} {l d k : Location} {n s : String}

/-! ## Places apart -/

/-- A location and all below it. -/
def below (d : Location) : Set Location := {k | d <+: k}

/-- What lies below a location under one of some names. -/
def belowNames (d : Location) (names : List String) : Set Location :=
  {k | ∃ n ∈ names, d ++ [n] <+: k}

/-- **Two places apart**: neither of them lies in the other. -/
def Apart (l d : Location) : Prop := ¬ l <+: d ∧ ¬ d <+: l

/-- What lies in places apart is apart. -/
theorem Apart.append (h : Apart l d) (k m : Location) : Apart (l ++ k) (d ++ m) := by
  constructor
  · intro hprefix
    exact (List.prefix_or_prefix_of_prefix ((List.prefix_append l k).trans hprefix)
      (List.prefix_append d m)).elim h.1 h.2
  · intro hprefix
    exact (List.prefix_or_prefix_of_prefix ((List.prefix_append d m).trans hprefix)
      (List.prefix_append l k)).elim h.2 h.1

/-- Different names lie apart. -/
theorem apart_of_ne (d : Location) (h : n ≠ s) : Apart (d ++ [n]) (d ++ [s]) := by
  simp [Apart, List.prefix_append_right_inj, List.cons_prefix_cons, h, Ne.symm h]

theorem Apart.notMem_below (h : Apart l d) (k : Location) : l ++ k ∉ below d := fun hmem =>
  (h.append k []).2 (by simpa [below] using hmem)

theorem notMem_belowNames {names : List String} (h : n ∉ names) (d k : Location) :
    d ++ [n] ++ k ∉ belowNames d names := by
  rintro ⟨s, hs, hprefix⟩
  have hne : n ≠ s := fun heq => h (heq ▸ hs)
  exact ((apart_of_ne d hne).append k []).2 (by simpa using hprefix)

theorem singleton_subset_below (d : Location) : ({d} : Set Location) ⊆ below d := by
  rintro k rfl
  exact List.prefix_rfl

/-! ## Names in a directory -/

/-- Where no directory stands, nothing stands below. -/
theorem Rooted.free_below (h : t.Rooted) (hd : t.entryAt? d ≠ some .directory) (hk : k ≠ []) :
    t.entryAt? (d ++ k) = none := by
  by_contra hentry
  exact hd (h.directory_of_below hentry (List.prefix_append d k) (by simpa using Ne.symm hk))

/-- The names in a directory are the last ones on the way down to its entries. -/
theorem namesIn_perm (t : FileTree) (l : Location) :
    (t.namesIn l).Perm ((t.entries.map (·.1)).filterMap fun k =>
      match k.getLast? with
      | some name => if k.dropLast == l then some name else none
      | none => none) := by
  rw [List.filterMap_map]
  exact List.mergeSort_perm _ _

theorem lastName_eq_some_iff : (match k.getLast? with
      | some name => if k.dropLast == l then some name else none
      | none => none) = some s ↔ k = l ++ [s] := by
  rcases List.eq_nil_or_concat k with rfl | ⟨k, s', rfl⟩
  · simp
  · rw [List.concat_eq_append, List.getLast?_concat, List.dropLast_concat]
    by_cases hk : k = l
    · simp [hk]
    · simp [hk]

/-- **The names in a directory** are those under which something stands in it. -/
theorem mem_namesIn : s ∈ t.namesIn l ↔ t.entryAt? (l ++ [s]) ≠ none := by
  rw [(namesIn_perm t l).mem_iff, List.mem_filterMap, ← mem_keys_iff (by simp)]
  constructor
  · rintro ⟨k, hk, hlast⟩
    exact lastName_eq_some_iff.mp hlast ▸ hk
  · intro hmem
    exact ⟨_, hmem, lastName_eq_some_iff.mpr rfl⟩

/-- No name is there twice. -/
theorem Proper.nodup_namesIn (ht : t.Proper) (l : Location) : (t.namesIn l).Nodup := by
  rw [(namesIn_perm t l).nodup_iff]
  refine ht.nodup.filterMap fun k k' s hk hk' => ?_
  rw [lastName_eq_some_iff.mp hk, lastName_eq_some_iff.mp hk']

/-! ## Copies -/

/-- **An equal copy**: at `d` stands in one tree what stands at `l` in another one, with all below
it. -/
def CopyOf (t : FileTree) (l : Location) (t' : FileTree) (d : Location) : Prop :=
  ∀ k, t'.entryAt? (d ++ k) = t.entryAt? (l ++ k)

/-- Below a name that is not in a directory nothing stands. -/
theorem Rooted.free_of_notMem_namesIn (h : t.Rooted) (hs : s ∉ t.namesIn l) (k : Location) :
    t.entryAt? (l ++ [s] ++ k) = none := by
  have hnone : t.entryAt? (l ++ [s]) = none := by
    by_contra hentry
    exact hs (mem_namesIn.mpr hentry)
  by_cases hk : k = []
  · rw [hk, List.append_nil]
    exact hnone
  · exact h.free_below (by simp [hnone]) hk

/-- **A directory is an equal copy** when all its entries are, and nothing else stands in it. -/
theorem copyOf_of_entries (h : t.Rooted) (hdir : t'.entryAt? d = t.entryAt? l)
    (hentries : ∀ s ∈ t.namesIn l, CopyOf t (l ++ [s]) t' (d ++ [s]))
    (hnothing : ∀ s ∉ t.namesIn l, ∀ k, t'.entryAt? (d ++ [s] ++ k) = none) :
    CopyOf t l t' d := by
  intro k
  cases k with
  | nil => simpa using hdir
  | cons s k =>
    by_cases hs : s ∈ t.namesIn l
    · simpa using hentries s hs k
    · have hfree := h.free_of_notMem_namesIn hs k
      have hnothing := hnothing s hs k
      simp only [List.append_assoc, List.singleton_append] at hfree hnothing
      rw [hfree, hnothing]

/-- A path that leads to something leads there still when something is written elsewhere, where no
directory stands. -/
theorem Writes.locate_of_free {S : Set Location} {p : Path} (h : Writes S t t')
    (hS : ∀ k ∈ S, t.entryAt? k ≠ some .directory) (hl : l ∉ S) (hp : t.locate p = .ok l) :
    t'.locate p = .ok l := by
  rw [h.locate fun k hk hmem => ?_, hp]
  rcases (points_of_locate hp).passes k hk with rfl | hdir
  · exact hl hmem
  · exact hS k hmem hdir

end FileTree

namespace FileAction

open FileTree
open RtlFlow.Path (IsName)
open Host (copyTreeWithin copyTree ensureDir)

variable {t t' : FileTree} {l d : Location} {source target : Path} {names : List String}
  {fuel n count : Nat} {s : String}

/-- **What was copied as a file** to another place is one, and is put there. -/
theorem exists_of_copyFile_eq_ok (ht : t.Proper) (hp : t.Points target d)
    (hname : target.fileName? ≠ none) (hsource : t.placeOf source = l) (hne : l ≠ d)
    (h : (Host.copyFile source target).run t = (.ok (), t')) :
    ∃ t₁ content executable, Writes {d} t t₁ ∧
      t.entryAt? l = some (.file content executable) ∧ t₁.fileSpot target = .ok d ∧
      t' = t₁.put d (.file content executable) := by
  obtain ⟨_, t₁, hparent, hcopy⟩ := exists_of_bind_eq_ok h
  have hw : Writes {d} t t₁ := (writes_ensureParent ht hname hp.needs).of_run hparent
  have hcopy := run_adapt_eq_ok_iff.mp hcopy
  rcases copy_cases source target t₁ with ⟨e, hrun⟩ | ⟨l', m, content, x, hl, hentry, hspot, hrun⟩
    <;> rw [hrun] at hcopy
  · cases hcopy
  · -- the places of the two paths are where they lead
    have hplaces := placeOf_of_workingDir hw.sameWays.workingDir
    have hm := (fileSpot_eq_ok_iff.mp hspot).1
    obtain rfl : l = l' := by rw [← hsource, ← hplaces source, placeOf_of_locate hl]
    obtain rfl : d = m := by rw [← hp.place, ← hplaces target, placeOf_of_locate hm]
    rw [hw.entryAt? (by simpa using hne)] at hentry
    have hput := (congrArg Prod.snd hcopy).symm
    rw [if_neg (by simpa using Ne.symm hne)] at hput
    exact ⟨t₁, content, x, hw, hentry, hspot, hput⟩

/-- **A file that was copied** to another place stands there as at its own. -/
theorem copyOf_copyFile (ht : t.Proper) (hp : t.Points target d) (hname : target.fileName? ≠ none)
    (hsource : t.placeOf source = l) (hne : l ≠ d)
    (h : (Host.copyFile source target).run t = (.ok (), t')) :
    CopyOf t l t' d ∧ t'.locate target = .ok d := by
  have hw : Writes {d} t t' := (writes_copyFile ht hname hp.needs source).of_run h
  obtain ⟨t₁, content, x, hw₁, hentry, hspot, rfl⟩ :=
    exists_of_copyFile_eq_ok ht hp hname hsource hne h
  obtain ⟨hm, hfree, hend⟩ := fileSpot_eq_ok_iff.mp hspot
  have hfree₁ : t.entryAt? d ≠ some .directory := fun hdir =>
    hfree (hw₁.sameWays.directories d hdir)
  refine ⟨fun k => ?_, locate_of_directories (t := t₁) rfl
    (fun k hk => directory_put hfree (fun _ h => h) _ hk) hend hm⟩
  by_cases hk : k = []
  · subst hk
    rw [List.append_nil, List.append_nil, hentry, entryAt?_put (ne_nil_of_entryAt? hfree),
      if_pos rfl]
  · -- below a file nothing stands
    rw [hw.entryAt? (by simpa using hk), ht.rooted.free_below hfree₁ hk,
      ht.rooted.free_below (by simp [hentry]) hk]

/-! ## Directories, entry by entry -/

/-- Copies an entry of a directory and adds to the number of files copied. -/
def copyEntry (fuel : Nat) (source target : Path) (count : Nat) (name : String) :
    FileAction FilesystemError Nat := do
  return count + (← copyTreeWithin fuel (source.child name) (target.child name))

/-- The names in the directory that a path leads to. -/
def namesAt (t : FileTree) (p : Path) : List String :=
  match t.locate p with
  | .ok l => t.namesIn l
  | .error _ => []

theorem isName_of_mem_namesAt (ht : t.Proper) {p : Path} {s : String} (hs : s ∈ namesAt t p) :
    IsName s := by
  unfold namesAt at hs
  cases hlocate : t.locate p with
  | error e => simp [hlocate] at hs
  | ok l =>
    rw [hlocate] at hs
    exact ht.isName (mem_namesIn.mp hs) (by simp)

/-- **A directory is copied** entry by entry when it was created, anything else as a file. -/
theorem run_copyTreeWithin_succ (fuel : Nat) (source target : Path) (t : FileTree) :
    (copyTreeWithin (fuel + 1) source target).run t =
      if t.isDir source then
        (ensureDir target >>= fun _ => do
          (namesAt (← get) source).foldlM (copyEntry fuel source target) 0).run t
      else (Host.copyFile source target >>= fun _ => pure 1).run t := by
  rw [copyTreeWithin, run_bind, run_get]
  dsimp only
  split <;> rfl

/-- **A directory is copied** by its entries when it was created at the target. -/
theorem run_copyTreeWithin_of_ok {t₁ : FileTree} (h : t.isDir source = true)
    (hensure : (ensureDir target).run t = (.ok (), t₁)) :
    (copyTreeWithin (fuel + 1) source target).run t =
      ((namesAt t₁ source).foldlM (copyEntry fuel source target) 0).run t₁ := by
  rw [run_copyTreeWithin_succ, if_pos h, run_bind, hensure]
  dsimp only
  rw [run_bind, run_get]

/-- A directory that cannot be created at the target is not copied. -/
theorem run_copyTreeWithin_of_error {t₁ : FileTree} {e : FilesystemError}
    (h : t.isDir source = true) (hensure : (ensureDir target).run t = (.error e, t₁)) :
    (copyTreeWithin (fuel + 1) source target).run t = (.error e, t₁) := by
  rw [run_copyTreeWithin_succ, if_pos h, run_bind, hensure]

/-- The directory that was created at the target, and nothing else. -/
theorem writes_of_ensured {t₁ : FileTree} (ht : t.Proper) (hp : t.Points target d)
    (htext : target.text ≠ "") (hensure : (ensureDir target).run t = (.ok (), t₁)) :
    Writes {d} t t₁ ∧ t₁.entryAt? d = some .directory := by
  have hdir := (locate_of_ensureDir htext hensure).2
  rw [hp.place] at hdir
  exact ⟨(writes_ensureDir ht hp.needs).of_run hensure, hdir⟩

/-- An entry that was copied counts with all below it. -/
theorem exists_of_copyEntry_eq_ok {name : String}
    (h : (copyEntry fuel source target count name).run t = (.ok n, t')) :
    ∃ m, (copyTreeWithin fuel (source.child name) (target.child name)).run t = (.ok m, t') := by
  obtain ⟨m, t₁, hrun, hpure⟩ := exists_of_bind_eq_ok h
  obtain rfl : t₁ = t' := congrArg Prod.snd hpure
  exact ⟨m, hrun⟩

theorem fileName?_child_ne_none {p : Path} {name : String} (h : IsName name) :
    (p.child name).fileName? ≠ none := by
  simp [Path.fileName?_child h]

theorem text_ne_of_fileName? {p : Path} (h : p.fileName? ≠ none) : p.text ≠ "" := by
  obtain ⟨text⟩ := p
  rintro rfl
  exact h (by decide)

/-- **A copy writes below its target only**, also when it fails. -/
def CopiesBelow (fuel : Nat) : Prop :=
  ∀ {t : FileTree} {source target : Path} {d : Location}, t.Proper → t.Points target d →
    target.text ≠ "" → t.isDir source = true ∨ target.fileName? ≠ none →
    Writes (below d) t ((copyTreeWithin fuel source target).run t).2

/-- The entries of a directory are copied one after the other, each below its own name. -/
theorem writes_foldlM_copyEntry (hfuel : CopiesBelow fuel) (ht : t.Proper)
    (hp : t.Points target d) (hd : t.entryAt? d = some .directory)
    (hnames : ∀ s ∈ names, IsName s) :
    Writes (belowNames d names) t
      ((names.foldlM (copyEntry fuel source target) count).run t).2 := by
  induction names generalizing t count with
  | nil => exact .refl _ t
  | cons s names ih =>
    obtain ⟨hs, hrest⟩ := List.forall_mem_cons.mp hnames
    have hchild := fileName?_child_ne_none (p := target) hs
    have hfirst : Writes (below (d ++ [s])) t
        ((copyEntry fuel source target count s).run t).2 :=
      writes_bind_pure (hfuel ht (hp.child hd hs) (text_ne_of_fileName? hchild) (Or.inr hchild)) _
    have hsub : below (d ++ [s]) ⊆ belowNames d (s :: names) := fun k hk => ⟨s, by simp, hk⟩
    rw [List.foldlM_cons]
    refine writes_bind (hfirst.mono hsub) fun c t₁ hrun => ?_
    have hfirst := hfirst.of_run hrun
    exact (ih (hfirst.proper ht) (hp.of_sameWays hfirst.sameWays)
      (hfirst.sameWays.directories d hd) hrest).mono
        fun k ⟨n, hn, hk⟩ => ⟨n, List.mem_cons_of_mem s hn, hk⟩

theorem belowNames_subset (d : Location) (names : List String) : belowNames d names ⊆ below d :=
  fun _ ⟨n, _, hk⟩ => (List.prefix_append d [n]).trans hk

/-- **Copying writes below the target only**, whether it succeeds or not. -/
theorem copiesBelow (fuel : Nat) : CopiesBelow fuel := by
  -- on the levels of directories: the entries of one are copied with one level less
  induction fuel with
  | zero => exact fun {t} _ _ _ _ _ _ _ => .refl _ t
  | succ fuel ih =>
    intro t source target d ht hp htext hname
    rw [run_copyTreeWithin_succ]
    split
    · have hensure := writes_ensureDir ht hp.needs
      refine writes_bind (hensure.mono (singleton_subset_below d)) fun _ t₁ hrun => ?_
      have hdir := (locate_of_ensureDir htext hrun).2
      have hensure := hensure.of_run hrun
      rw [hp.place] at hdir
      have ht₁ := hensure.proper ht
      rw [run_bind, run_get]
      exact (writes_foldlM_copyEntry ih ht₁ (hp.of_sameWays hensure.sameWays) hdir
        fun s hs => isName_of_mem_namesAt ht₁ hs).mono (belowNames_subset d _)
    · rename_i hfile
      have hcopy := writes_copyFile ht (hname.resolve_left hfile) hp.needs source
      exact writes_bind_pure (hcopy.mono (singleton_subset_below d)) _

/-- **An entry that is copied** writes below its own name, and leaves all as it was for the next
one. -/
theorem writes_of_copied_entry {reply : Except FilesystemError Nat} (ht : t.Proper)
    (hp : t.Points target d) (hd : t.entryAt? d = some .directory) (hs : IsName s)
    (h : (copyTreeWithin fuel (source.child s) (target.child s)).run t = (reply, t')) :
    Writes (below (d ++ [s])) t t' := by
  have hchild := fileName?_child_ne_none (p := target) hs
  have hw : Writes (below (d ++ [s])) t
      ((copyTreeWithin fuel (source.child s) (target.child s)).run t).2 :=
    copiesBelow fuel ht (hp.child hd hs) (text_ne_of_fileName? hchild) (Or.inr hchild)
  exact hw.of_run h

/-- **A copy that succeeds is equal** to what it is a copy of, if its place is free and apart. -/
def CopiesEqual (fuel : Nat) : Prop :=
  ∀ {t t' : FileTree} {source target : Path} {l d : Location} {n : Nat}, t.Proper →
    t.Points target d → target.text ≠ "" → t.isDir source = true ∨ target.fileName? ≠ none →
    t.placeOf source = l → Apart l d → t.entryAt? d = none →
    (copyTreeWithin fuel source target).run t = (.ok n, t') → CopyOf t l t' d

/-- **The entries of a directory are copied** one after the other, each to its own place. -/
theorem copyOf_foldlM_copyEntry (hfuel : CopiesEqual fuel) (ht : t.Proper)
    (hp : t.Points target d) (hd : t.entryAt? d = some .directory)
    (hnames : ∀ s ∈ names, IsName s) (hnodup : names.Nodup) (hsource : t.placeOf source = l)
    (hapart : Apart l d) (hfree : ∀ s ∈ names, t.entryAt? (d ++ [s]) = none)
    (h : (names.foldlM (copyEntry fuel source target) count).run t = (.ok n, t')) :
    ∀ s ∈ names, CopyOf t (l ++ [s]) t' (d ++ [s]) := by
  induction names generalizing t count with
  | nil => simp
  | cons s names ih =>
    obtain ⟨hs, hrest⟩ := List.forall_mem_cons.mp hnames
    obtain ⟨hfree, hfrees⟩ := List.forall_mem_cons.mp hfree
    obtain ⟨hnotMem, hnodup⟩ := List.nodup_cons.mp hnodup
    rw [List.foldlM_cons] at h
    obtain ⟨c, t₁, hentry, hrun⟩ := exists_of_bind_eq_ok h
    obtain ⟨m, hcopy⟩ := exists_of_copyEntry_eq_ok hentry
    have hchild := fileName?_child_ne_none (p := target) hs
    have hfirst := writes_of_copied_entry ht hp hd hs hcopy
    have ht₁ := hfirst.proper ht
    have hp₁ := hp.of_sameWays hfirst.sameWays
    have hd₁ := hfirst.sameWays.directories d hd
    have hother : Writes (belowNames d names) t₁ t' :=
      (writes_foldlM_copyEntry (copiesBelow fuel) ht₁ hp₁ hd₁ hrest).of_run hrun
    refine List.forall_mem_cons.mpr ⟨fun k => ?_, fun s' hs' k => ?_⟩
    · -- the entry itself, which those behind it leave as it is
      rw [hother.entryAt? (notMem_belowNames hnotMem d k)]
      exact hfuel ht (hp.child hd hs) (text_ne_of_fileName? hchild) (Or.inr hchild)
        (by rw [placeOf_child hs, hsource]) (hapart.append [s] [s]) hfree hcopy k
    · -- those behind it, whose sources it has left as they are
      have hne : s' ≠ s := fun heq => hnotMem (heq ▸ hs')
      rw [ih ht₁ hp₁ hd₁ hrest hnodup
        ((placeOf_of_workingDir hfirst.sameWays.workingDir source).trans hsource) (fun r hr => ?_)
        hrun s' hs' k]
      · exact hfirst.entryAt? ((hapart.append [s'] [s]).notMem_below k)
      · have hne : r ≠ s := fun heq => hnotMem (heq ▸ hr)
        have hkept := hfirst.entryAt? ((apart_of_ne d hne).notMem_below [])
        rw [List.append_nil] at hkept
        rw [hkept, hfrees r hr]

/-- **Copying to a free place apart makes an equal copy**, if it succeeds. -/
theorem copiesEqual (fuel : Nat) : CopiesEqual fuel := by
  induction fuel with
  | zero =>
    intro t t' source target l d n _ _ _ _ _ _ _ h
    cases h
  | succ fuel ih =>
    intro t t' source target l d n ht hp htext hname hsource hapart hfree h
    have hne : l ≠ d := fun heq => hapart.1 (heq ▸ List.prefix_rfl)
    by_cases hisDir : t.isDir source = true
    · obtain ⟨hlocate, hdir⟩ := exists_locate_of_isDir hisDir
      rw [hsource] at hlocate hdir
      rcases hensure : (ensureDir target).run t with ⟨e | ⟨⟩, t₁⟩
      · rw [run_copyTreeWithin_of_error hisDir hensure] at h
        cases h
      have hrun := (run_copyTreeWithin_of_ok hisDir hensure).symm.trans h
      obtain ⟨hw, hd₁⟩ := writes_of_ensured ht hp htext hensure
      have ht₁ := hw.proper ht
      -- the new directory is empty, and the source is as before
      have hkept : ∀ k, k ≠ d → t₁.entryAt? k = t.entryAt? k := fun k hk =>
        hw.entryAt? (by simpa using hk)
      have hempty : ∀ k, k ≠ [] → t₁.entryAt? (d ++ k) = none := fun k hk => by
        rw [hkept _ (by simpa using hk), ht.rooted.free_below (by simp [hfree]) hk]
      have hsame : ∀ k, t₁.entryAt? (l ++ k) = t.entryAt? (l ++ k) := fun k =>
        hkept _ fun heq => hapart.1 (heq ▸ List.prefix_append l k)
      have hlocate₁ : t₁.locate source = .ok l :=
        hw.locate_of_free (by simp [hfree]) (by simpa using hne) hlocate
      have hnames : ∀ s ∈ namesAt t₁ source, IsName s := fun s => isName_of_mem_namesAt ht₁
      have hp₁ := hp.of_sameWays hw.sameWays
      have hwrites : Writes (belowNames d (namesAt t₁ source)) t₁ t' :=
        (writes_foldlM_copyEntry (copiesBelow fuel) ht₁ hp₁ hd₁ hnames).of_run hrun
      rw [namesAt, hlocate₁] at hnames hrun hwrites
      have hcopies := copyOf_foldlM_copyEntry ih ht₁ hp₁ hd₁ hnames (ht₁.nodup_namesIn l)
        (placeOf_of_locate hlocate₁) hapart (fun s _ => hempty [s] (by simp)) hrun
      have hcopy : CopyOf t₁ l t' d := by
        refine copyOf_of_entries ht₁.rooted ?_ hcopies fun s hs k => ?_
        · have hl₁ := hsame []
          rw [List.append_nil] at hl₁
          rw [hl₁, hdir, hwrites.sameWays.directories d hd₁]
        · rw [hwrites.entryAt? (notMem_belowNames hs d k), List.append_assoc]
          exact hempty _ (by simp)
      exact fun k => (hcopy k).trans (hsame k)
    · rw [run_copyTreeWithin_succ, if_neg hisDir] at h
      obtain ⟨_, t₁, hcopy, hpure⟩ := exists_of_bind_eq_ok h
      obtain rfl : t₁ = t' := congrArg Prod.snd hpure
      exact (copyOf_copyFile ht hp (hname.resolve_left hisDir) hsource hne hcopy).1

/-! ## Whole directories -/

/-- A path with a separator at its end has a text. -/
theorem text_join_empty_ne {p : Path} (h : p.text ≠ "") : (p.join ⟨""⟩).text ≠ "" := by
  obtain ⟨rest, hrest⟩ := Path.exists_text_join_empty p
  rw [hrest, ne_eq, String.append_eq_empty_iff]
  exact fun hempty => h hempty.1

theorem run_copyTree (h : t.isDir source = true) (target : Path) :
    (copyTree source target).run t =
      (copyTreeWithin maxPath source (target.join ⟨""⟩)).run t := by
  obtain ⟨hlocate, hdir⟩ := exists_locate_of_isDir h
  unfold copyTree
  rw [run_bind, run_get]
  dsimp only
  rw [hlocate]
  dsimp only
  rw [hdir]
  rfl

/-- **Copying a directory writes below its target only**, whether it succeeds or not. -/
theorem writes_copyTree (ht : t.Proper) (hp : t.Points target d) (htext : target.text ≠ "")
    (h : t.isDir source = true) : Writes (below d) t ((copyTree source target).run t).2 := by
  rw [run_copyTree h]
  exact copiesBelow maxPath ht hp.join_empty (text_join_empty_ne htext) (Or.inl h)

/-- **A directory that was copied** to a free place apart stands there as at its own, with all below
it. -/
theorem copyOf_copyTree (ht : t.Proper) (hp : t.Points target d) (htext : target.text ≠ "")
    (h : t.isDir source = true) (hsource : t.placeOf source = l) (hapart : Apart l d)
    (hfree : t.entryAt? d = none) (hrun : (copyTree source target).run t = (.ok n, t')) :
    CopyOf t l t' d ∧ t'.locate target = .ok d := by
  have hcopy := hrun
  rw [run_copyTree h] at hcopy
  refine ⟨copiesEqual maxPath ht hp.join_empty (text_join_empty_ne htext) (Or.inl h) hsource hapart
    hfree hcopy, ?_⟩
  -- the target was created first, and directories stay
  obtain ⟨fuel, hfuel⟩ : ∃ fuel, maxPath = fuel + 1 := ⟨4095, rfl⟩
  rw [hfuel, run_copyTreeWithin_succ, if_pos h] at hcopy
  obtain ⟨_, t₁, hensure, hfold⟩ := exists_of_bind_eq_ok hcopy
  obtain ⟨hlocate, hdir⟩ := locate_of_ensureDir (text_join_empty_ne htext) hensure
  rw [hp.join_empty.place] at hlocate hdir
  have hw₁ : Writes {d} t t₁ := (writes_ensureDir ht hp.join_empty.needs).of_run hensure
  have ht₁ := hw₁.proper ht
  rw [run_bind, run_get] at hfold
  have hw₂ := (writes_foldlM_copyEntry (copiesBelow fuel) ht₁
    (hp.join_empty.of_sameWays hw₁.sameWays) hdir
    fun s hs => isName_of_mem_namesAt ht₁ hs).of_run hfold
  have hdir' := hw₂.sameWays.directories d hdir
  exact locate_of_join_empty htext (hw₂.sameWays.locate_kept hlocate (Or.inr hdir')) hdir'

end FileAction

end RtlFlow
