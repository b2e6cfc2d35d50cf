import RtlFlow.Host.FileTree
import RtlFlow.Proofs.PathIdentity
import Mathlib.Data.List.Basic
import Mathlib.Data.List.Infix

/-! # What file operations do

A file tree in which every entry stands in a directory (`FileTree.Rooted`) stays one, whatever is
done to it and whether it succeeds. In such a tree nothing stands below a file, so a file that is
written, moved or removed stands in no one's way: all other paths lead where they led. -/

namespace RtlFlow

namespace FileTree

variable {t t' : FileTree} {l m : Location} {e : Entry} {p q : Path}

/-! ## Entries -/

@[simp] theorem entryAt?_nil (t : FileTree) : t.entryAt? [] = some .directory := rfl

theorem ne_nil_of_entryAt? (h : t.entryAt? l ≠ some .directory) : l ≠ [] := by
  rintro rfl
  exact h rfl

/-- The root is a directory, so other locations are looked up among the entries. -/
theorem entryAt?_of_ne_nil (t : FileTree) (h : l ≠ []) :
    t.entryAt? l = (t.entries.find? fun (k, _) => k == l).map (·.2) := by
  rw [entryAt?, if_neg (by simpa using h)]

theorem find?_putIn (l m : Location) (e : Entry) (entries : List (Location × Entry)) :
    ((putIn l e entries).find? fun (k, _) => k == m).map (·.2) =
      if m = l then some e else (entries.find? fun (k, _) => k == m).map (·.2) := by
  induction entries with
  | nil => by_cases h : m = l <;> simp [putIn, h, Ne.symm]
  | cons x entries ih =>
    obtain ⟨k, old⟩ := x
    unfold putIn
    by_cases hk : k = l
    · subst hk
      by_cases h : m = k
      · simp [h]
      · have hne : (k == m) = false := by simpa using Ne.symm h
        simp [h, hne]
    · rw [if_neg (by simpa using hk), List.find?_cons, List.find?_cons]
      by_cases h : k = m
      · subst h
        simp [hk]
      · have hne : (k == m) = false := by simpa using h
        simpa only [hne] using ih

/-- **Where an entry was put, it stands**, and every other location has the entry that it had. -/
theorem entryAt?_put (hl : l ≠ []) (t : FileTree) (e : Entry) (m : Location) :
    (t.put l e).entryAt? m = if m = l then some e else t.entryAt? m := by
  by_cases hm : m = []
  · subst hm
    rw [if_neg (Ne.symm hl)]
    rfl
  · rw [entryAt?_of_ne_nil _ hm, entryAt?_of_ne_nil _ hm]
    exact find?_putIn l m e t.entries

/-- **Where the tree was cut, nothing stands**, neither there nor below, and every other location
has the entry that it had. -/
theorem entryAt?_cut (t : FileTree) (l m : Location) :
    (t.cut l).entryAt? m = if m ≠ [] ∧ l <+: m then none else t.entryAt? m := by
  by_cases hm : m = []
  · simp [hm]
  · rw [entryAt?_of_ne_nil _ hm, entryAt?_of_ne_nil _ hm, cut, List.find?_filter]
    by_cases hbelow : l <+: m
    · rw [if_pos ⟨hm, hbelow⟩, Option.map_eq_none_iff, List.find?_eq_none]
      rintro ⟨k, old⟩ -
      by_cases hk : k = m
      · simp [hk, hbelow]
      · simp [hk]
    · rw [if_neg fun h => hbelow h.2]
      congr 2
      funext x
      obtain ⟨k, old⟩ := x
      by_cases hk : k = m
      · subst hk
        have hnot : l.isPrefixOf k = false := by
          rwa [← Bool.not_eq_true, List.isPrefixOf_iff_prefix]
        simp [hnot]
      · simp [hk]

/-! ## Trees whose entries stand in directories -/

/-- **A tree in which every entry stands in a directory.** -/
def Rooted (t : FileTree) : Prop :=
  ∀ l s, t.entryAt? (l ++ [s]) ≠ none → t.entryAt? l = some .directory

/-- A tree is rooted when each of its entries stands in a directory. -/
theorem rooted_of_entries (h : ∀ x ∈ t.entries, t.entryAt? x.1.dropLast = some .directory) :
    t.Rooted := by
  intro l s hentry
  rw [entryAt?_of_ne_nil _ (by simp), ne_eq, Option.map_eq_none_iff, List.find?_eq_none] at hentry
  push Not at hentry
  obtain ⟨x, hx, hkey⟩ := hentry
  have hdir := h x hx
  rwa [show x.1 = l ++ [s] by simpa using hkey, List.dropLast_concat] at hdir

/-- What something stands below is a directory. -/
theorem Rooted.directory_of_below (h : t.Rooted) (hm : t.entryAt? m ≠ none) (hbelow : l <+: m)
    (hne : l ≠ m) : t.entryAt? l = some .directory := by
  obtain ⟨names, rfl⟩ := hbelow
  induction names using List.reverseRecOn with
  | nil => simp at hne
  | append_singleton names s ih =>
    rw [← List.append_assoc] at hm
    have hdir := h _ _ hm
    by_cases hnames : names = []
    · simpa [hnames] using hdir
    · exact ih (by simp [hdir]) (by simpa using hnames)

/-- **Nothing stands below a file.** -/
theorem Rooted.ne_prefix_of_file (h : t.Rooted) {content : ByteArray} {executable : Bool}
    (hl : t.entryAt? l = some (.file content executable)) (hm : t.entryAt? m = some .directory) :
    ¬ l <+: m := by
  intro hbelow
  have hne : l ≠ m := by
    rintro rfl
    simp [hl] at hm
  have hdir := h.directory_of_below (by simp [hm]) hbelow hne
  simp [hl] at hdir

/-- Without the entry of a file, every directory is there as before. -/
theorem Rooted.directory_cut (h : t.Rooted) {content : ByteArray} {executable : Bool}
    (hl : t.entryAt? l = some (.file content executable)) (hm : t.entryAt? m = some .directory) :
    (t.cut l).entryAt? m = some .directory := by
  rw [entryAt?_cut, if_neg fun hbelow => h.ne_prefix_of_file hl hm hbelow.2, hm]

/-- **A tree stays rooted** when an entry is put in a directory, unless it is a file in the place of
a directory. -/
theorem Rooted.put (h : t.Rooted) (hl : l ≠ []) (hparent : t.entryAt? l.dropLast = some .directory)
    (he : e = .directory ∨ t.entryAt? l ≠ some .directory) : (t.put l e).Rooted := by
  intro m s hentry
  rw [entryAt?_put hl] at hentry ⊢
  by_cases hbelow : m ++ [s] = l
  · subst hbelow
    rw [List.dropLast_concat] at hparent
    rw [if_neg (by simp), hparent]
  · rw [if_neg hbelow] at hentry
    have hm := h m s hentry
    split
    · rename_i heq
      subst heq
      exact congrArg some (he.resolve_right fun hne => hne hm)
    · exact hm

/-- A tree stays rooted when it is cut. -/
theorem Rooted.cut (h : t.Rooted) (l : Location) : (t.cut l).Rooted := by
  intro m s hentry
  rw [entryAt?_cut] at hentry ⊢
  split at hentry
  · simp at hentry
  · rename_i hkept
    rw [if_neg, h m s hentry]
    exact fun hcut => hkept ⟨by simp, hcut.2.trans (List.prefix_append m [s])⟩

/-! ## Following paths -/

/-- A name of a path is followed in a directory. -/
theorem follow_cons_eq_ok {here : Location} {s : String} {names : List String}
    (h : t.follow here (s :: names) = .ok l) :
    t.entryAt? here = some .directory ∧
      ∃ next, (next = here ∨ next = here.dropLast ∨ next = here ++ [s]) ∧
        t.follow next names = .ok l ∧
        ∀ t' : FileTree, t'.entryAt? here = some .directory →
          t'.follow here (s :: names) = t'.follow next names := by
  unfold follow at h
  split at h
  · cases h
  · cases h
  · rename_i hdir
    refine ⟨hdir, ?_⟩
    split at h
    · rename_i hs
      refine ⟨_, Or.inl rfl, h, fun t' hdir' => ?_⟩
      rw [follow, hdir']
      exact if_pos hs
    · rename_i hs
      split at h
      · rename_i hs'
        refine ⟨_, Or.inr (Or.inl rfl), h, fun t' hdir' => ?_⟩
        rw [follow, hdir']
        exact (if_neg hs).trans (if_pos hs')
      · rename_i hs'
        split at h
        · cases h
        · rename_i hname
          refine ⟨_, Or.inr (Or.inr rfl), h, fun t' hdir' => ?_⟩
          rw [follow, hdir']
          exact (if_neg hs).trans ((if_neg hs').trans (if_neg hname))

/-- **A path leads to the same location in all trees in which it leads somewhere.** -/
theorem follow_unique {here : Location} {names : List String} (h : t.follow here names = .ok l)
    (h' : t'.follow here names = .ok m) : l = m := by
  induction names generalizing here with
  | nil => exact (Except.ok.inj h).symm.trans (Except.ok.inj h')
  | cons s names ih =>
    obtain ⟨-, next, -, hnext, hstep⟩ := follow_cons_eq_ok h
    obtain ⟨hdir, -⟩ := follow_cons_eq_ok h'
    exact ih hnext (hstep t' hdir ▸ h')

/-- **A path leads where it led** when all directories are still there. -/
theorem follow_of_directories {here : Location} {names : List String}
    (hdirs : ∀ k, t.entryAt? k = some .directory → t'.entryAt? k = some .directory)
    (h : t.follow here names = .ok l) : t'.follow here names = .ok l := by
  induction names generalizing here with
  | nil => exact h
  | cons s names ih =>
    obtain ⟨hdir, next, -, hnext, hstep⟩ := follow_cons_eq_ok h
    rw [hstep t' (hdirs _ hdir)]
    exact ih hnext

/-- The directory above a directory is one. -/
theorem Rooted.directory_dropLast (h : t.Rooted) (hl : t.entryAt? l = some .directory) :
    t.entryAt? l.dropLast = some .directory := by
  rcases List.eq_nil_or_concat l with rfl | ⟨k, s, rfl⟩
  · rfl
  · rw [List.concat_eq_append] at hl ⊢
    rw [List.dropLast_concat]
    exact h k s (by simp [hl])

/-- **What a path leads to is a directory or stands in one.** -/
theorem Rooted.parent_of_follow (h : t.Rooted) {here : Location} {names : List String}
    (hnames : names ≠ []) (hfollow : t.follow here names = .ok l)
    (hl : t.entryAt? l ≠ some .directory) : t.entryAt? l.dropLast = some .directory := by
  induction names generalizing here with
  | nil => exact absurd rfl hnames
  | cons s names ih =>
    obtain ⟨hdir, next, hcases, hnext, -⟩ := follow_cons_eq_ok hfollow
    by_cases hrest : names = []
    · subst hrest
      obtain rfl := Except.ok.inj hnext
      rcases hcases with rfl | rfl | rfl
      · exact absurd hdir hl
      · exact absurd (h.directory_dropLast hdir) hl
      · rwa [List.dropLast_concat]
    · exact ih hrest hnext

/-! ## Locating paths -/

/-- Only a file is not located by a path that ends in a separator. -/
theorem locate_kind :
    (match t.entryAt? m with
      | some (.file ..) => if endsInSeparator p then .error .notDirectory else .ok m
      | _ => .ok m : Except Fault Location) = .ok l ↔
    m = l ∧ (endsInSeparator p = true → ∀ content executable,
      t.entryAt? m ≠ some (.file content executable)) := by
  split
  · rename_i hentry
    cases endsInSeparator p <;> simp [hentry]
  · rename_i hentry
    simpa using fun _ _ => hentry

/-- **A path that leads to a location** has a text that may be followed, and follows to it; with a
separator at its end it leads to no file. -/
theorem locate_eq_ok_iff : t.locate p = .ok l ↔
    (p.text.toList.any (· = '\x00') = false ∧ p.text.isEmpty = false ∧
      ¬ maxPath ≤ p.text.utf8ByteSize) ∧
    t.follow (t.startOf p) p.segments = .ok l ∧
    (endsInSeparator p = true → ∀ content executable,
      t.entryAt? l ≠ some (.file content executable)) := by
  unfold locate
  cases hnul : p.text.toList.any (· = '\x00')
  · cases hempty : p.text.isEmpty
    · by_cases hlong : maxPath ≤ p.text.utf8ByteSize
      · simp [hlong, bind, Except.bind]
      · cases hfollow : t.follow (t.startOf p) p.segments with
        | error e => simp [hlong, bind, Except.bind]
        | ok k =>
          simp only [hlong, bind, Except.bind, Bool.false_eq_true, if_false]
          refine locate_kind.trans ?_
          constructor
          · rintro ⟨rfl, hend⟩
            exact ⟨by simp, rfl, hend⟩
          · rintro ⟨-, ⟨⟩, hend⟩
            exact ⟨rfl, hend⟩
    · simp [bind, Except.bind]
  · simp [bind, Except.bind]

/-- What a path leads to is a directory or stands in one. -/
theorem Rooted.parent_of_locate (h : t.Rooted) (hlocate : t.locate p = .ok l)
    (hl : t.entryAt? l ≠ some .directory) : t.entryAt? l.dropLast = some .directory := by
  obtain ⟨⟨-, hempty, -⟩, hfollow, -⟩ := locate_eq_ok_iff.mp hlocate
  by_cases hsegments : p.segments = []
  · -- only the root has no name to follow
    have habsolute : p.isAbsolute = true := by
      by_contra hrelative
      exact Path.segments_ne_nil hempty (by simpa using hrelative) hsegments
    rw [hsegments, startOf, if_pos habsolute] at hfollow
    obtain rfl := Except.ok.inj hfollow
    exact absurd rfl hl
  · exact h.parent_of_follow hsegments hfollow hl

/-- A path leads to the same location in all trees with one working directory in which it leads
somewhere. -/
theorem locate_unique (hdir : t'.workingDir = t.workingDir) (h : t.locate p = .ok l)
    (h' : t'.locate p = .ok m) : l = m := by
  have hstart : t'.startOf p = t.startOf p := by simp [startOf, hdir]
  obtain ⟨-, hfollow, -⟩ := locate_eq_ok_iff.mp h
  obtain ⟨-, hfollow', -⟩ := locate_eq_ok_iff.mp h'
  exact follow_unique hfollow (hstart ▸ hfollow')

/-- A path without a separator at its end leads where it led when all directories are still
there. -/
theorem locate_of_directories (hdir : t'.workingDir = t.workingDir)
    (hdirs : ∀ k, t.entryAt? k = some .directory → t'.entryAt? k = some .directory)
    (hend : endsInSeparator p = false) (h : t.locate p = .ok l) : t'.locate p = .ok l := by
  have hstart : t'.startOf p = t.startOf p := by simp [startOf, hdir]
  obtain ⟨htext, hfollow, -⟩ := locate_eq_ok_iff.mp h
  exact locate_eq_ok_iff.mpr
    ⟨htext, hstart ▸ follow_of_directories hdirs hfollow, fun h => by simp [hend] at h⟩

theorem fileSpot_eq_ok_iff : t.fileSpot p = .ok l ↔
    t.locate p = .ok l ∧ t.entryAt? l ≠ some .directory ∧ endsInSeparator p = false := by
  unfold fileSpot
  cases hlocate : t.locate p with
  | error e => simp [bind, Except.bind]
  | ok k =>
    obtain ⟨-, -, hend⟩ := locate_eq_ok_iff.mp hlocate
    rcases hentry : t.entryAt? k with - | (⟨content, executable⟩ | -)
    · cases hsep : endsInSeparator p
      · simp only [bind, Except.bind, hentry]
        constructor
        · rintro ⟨⟩
          simp [hentry]
        · rintro ⟨⟨⟩, -⟩
          rfl
      · simp [bind, Except.bind, hentry]
    · have hsep : endsInSeparator p = false := by
        by_contra hsep
        exact hend (by simpa using hsep) content executable hentry
      simp only [bind, Except.bind, hentry]
      constructor
      · rintro ⟨⟩
        simp [hentry, hsep]
      · rintro ⟨⟨⟩, -⟩
        rfl
    · simp only [bind, Except.bind, hentry]
      constructor
      · rintro ⟨⟩
      · rintro ⟨⟨⟩, hne, -⟩
        exact absurd hentry hne

theorem read_eq_ok_iff {content : ByteArray} : t.read p = .ok content ↔
    ∃ l executable, t.locate p = .ok l ∧ t.entryAt? l = some (.file content executable) := by
  unfold read
  cases t.locate p with
  | error e => simp [bind, Except.bind]
  | ok l =>
    rcases hentry : t.entryAt? l with - | (⟨found, executable⟩ | -)
    · simp [bind, Except.bind, hentry]
    · cases executable <;> simp [bind, Except.bind, hentry]
    · simp [bind, Except.bind, hentry]

/-- What can be read is there. -/
theorem isPresent_of_read {content : ByteArray} (h : t.read p = .ok content) :
    t.isPresent p = true := by
  obtain ⟨l, executable, hlocate, hentry⟩ := read_eq_ok_iff.mp h
  simp [isPresent, get?, hlocate, hentry]

end FileTree

/-! ## Runs of operations -/

namespace FileAction

variable {ε ε' α β : Type}

/-- **An operation behind another one** runs on what that one leaves, unless that fails. -/
theorem run_bind (a : FileAction ε α) (f : α → FileAction ε β) (t : FileTree) :
    (a >>= f).run t =
      match a.run t with
      | (.ok x, t') => (f x).run t'
      | (.error e, t') => (.error e, t') := by
  unfold ExceptT.run
  simp only [bind, ExceptT.bind, ExceptT.mk, StateT.bind, ExceptT.bindCont]
  cases a t with
  | mk reply t' => cases reply <;> rfl

/-- An operation behind another one that succeeds has run behind one that has succeeded. -/
theorem exists_of_bind_eq_ok {a : FileAction ε α} {f : α → FileAction ε β} {t t' : FileTree} {y : β}
    (h : (a >>= f).run t = (.ok y, t')) :
    ∃ x t₁, a.run t = (.ok x, t₁) ∧ (f x).run t₁ = (.ok y, t') := by
  rw [run_bind] at h
  rcases hrun : a.run t with ⟨e | x, t₁⟩ <;> rw [hrun] at h
  · cases h
  · exact ⟨x, t₁, rfl, h⟩

theorem run_throw (e : ε) (t : FileTree) : (throw e : FileAction ε α).run t = (.error e, t) := rfl

theorem run_get (t : FileTree) : (get : FileAction ε FileTree).run t = (.ok t, t) := rfl

theorem run_set (t t' : FileTree) : (set t' : FileAction ε PUnit).run t = (.ok ⟨⟩, t') := rfl

theorem run_adapt (f : ε → ε') (a : FileAction ε α) (t : FileTree) :
    (ExceptT.adapt f a).run t = ((a.run t).1.mapError f, (a.run t).2) := rfl

/-- **Operations one after the other**: those behind the first one run on what it leaves, unless it
fails. -/
theorem run_forM_cons (a : FileAction ε Unit) (actions : List (FileAction ε Unit)) (t : FileTree) :
    ((a :: actions).forM id).run t =
      match a.run t with
      | (.ok _, t') => (actions.forM id).run t'
      | (.error e, t') => (.error e, t') := by
  show (a >>= fun _ => actions.forM id).run t = _
  rw [run_bind]
  rcases a.run t with ⟨e | x, t'⟩ <;> rfl

end FileAction

namespace FileTree

section Runs

open FileAction (run_bind run_get)

variable {t t' : FileTree} {l m : Location} {p q : Path} {content : ByteArray}

/-- Whether a file that stands at a location is executable. -/
def modeAt (t : FileTree) (l : Location) : Bool :=
  match t.entryAt? l with
  | some (.file _ x) => x
  | _ => false

/-- **A write** puts a file where one may be written, with the mode of the one that stands there. -/
theorem run_write (p : Path) (content : ByteArray) (t : FileTree) :
    (write p content).run t =
      match t.fileSpot p with
      | .error e => (.error e, t)
      | .ok l => (.ok (), t.put l (.file content (t.modeAt l))) := by
  unfold write
  rw [run_bind, run_get]
  dsimp only
  cases t.fileSpot p with
  | error e => rfl
  | ok l => rfl

/-- **A write** fails and changes nothing, or puts a file where one may be written. -/
theorem write_cases (p : Path) (content : ByteArray) (t : FileTree) :
    (∃ e, (write p content).run t = (.error e, t)) ∨
      ∃ l executable, t.fileSpot p = .ok l ∧
        (write p content).run t = (.ok (), t.put l (.file content executable)) := by
  rw [run_write]
  cases t.fileSpot p with
  | error e => exact Or.inl ⟨e, rfl⟩
  | ok l => exact Or.inr ⟨l, _, rfl, rfl⟩

/-- **The removal of a file** fails and changes nothing, or cuts the tree at the file. What is not
found is not there. -/
theorem removeFile_cases (p : Path) (t : FileTree) :
    (∃ e, (removeFile p).run t = (.error e, t) ∧ (e = .notFound → t.isPresent p = false)) ∨
      ∃ l content executable, t.locate p = .ok l ∧
        t.entryAt? l = some (.file content executable) ∧
        (removeFile p).run t = (.ok (), t.cut l) := by
  unfold removeFile
  rw [run_bind, run_get]
  dsimp only
  cases hlocate : t.locate p with
  | error e => exact Or.inl ⟨e, rfl, fun _ => by simp [isPresent, get?, hlocate]⟩
  | ok l =>
    dsimp only
    rcases hentry : t.entryAt? l with - | (⟨content, executable⟩ | -)
    · exact Or.inl ⟨.notFound, rfl, fun _ => by simp [isPresent, get?, hlocate, hentry]⟩
    · exact Or.inr ⟨l, content, executable, rfl, hentry, rfl⟩
    · exact Or.inl ⟨.isDirectory, rfl, fun h => by cases h⟩

/-- **A file that can be read can be removed.** -/
theorem removeFile_of_read (h : t.read p = .ok content) :
    ∃ t', (removeFile p).run t = (.ok (), t') := by
  obtain ⟨l, executable, hlocate, hentry⟩ := read_eq_ok_iff.mp h
  refine ⟨t.cut l, ?_⟩
  unfold removeFile
  rw [run_bind, run_get]
  simp only [hlocate, hentry]
  rfl

/-- **A move of a file** fails and changes nothing, or cuts the tree at the file and puts it where
one may be written. -/
theorem rename_cases (p q : Path) (t : FileTree) :
    (∃ e, (rename p q).run t = (.error e, t)) ∨
      ∃ l m content executable, t.locate p = .ok l ∧ t.fileSpot q = .ok m ∧
        t.entryAt? l = some (.file content executable) ∧
        (rename p q).run t = (.ok (), (t.cut l).put m (.file content executable)) := by
  unfold rename
  rw [run_bind, run_get]
  dsimp only
  cases t.locate p with
  | error e => exact Or.inl ⟨e, rfl⟩
  | ok l =>
    cases t.fileSpot q with
    | error e => exact Or.inl ⟨e, rfl⟩
    | ok m =>
      dsimp only
      rcases hentry : t.entryAt? l with - | (⟨content, executable⟩ | -)
      · exact Or.inl ⟨.notFound, rfl⟩
      · exact Or.inr ⟨l, m, content, executable, rfl, rfl, hentry, rfl⟩
      · exact Or.inl ⟨.isDirectory, rfl⟩

/-- Every directory is still there when an entry was put where none was. -/
theorem directory_put {t₀ : FileTree} {k : Location} (hne : t₀.entryAt? l ≠ some .directory)
    (hdirs : ∀ k, t₀.entryAt? k = some .directory → t.entryAt? k = some .directory) (e : Entry)
    (hk : t₀.entryAt? k = some .directory) : (t.put l e).entryAt? k = some .directory := by
  rw [entryAt?_put (ne_nil_of_entryAt? hne), if_neg, hdirs k hk]
  rintro rfl
  exact hne hk

/-- Putting a file where one may be written keeps all directories, so its path leads to it. -/
theorem read_put_fileSpot {t₀ : FileTree} (hspot : t₀.fileSpot p = .ok l)
    (hdir : t.workingDir = t₀.workingDir)
    (hdirs : ∀ k, t₀.entryAt? k = some .directory → t.entryAt? k = some .directory)
    (content : ByteArray) (executable : Bool) :
    (t.put l (.file content executable)).read p = .ok content := by
  obtain ⟨hlocate, hne, hend⟩ := fileSpot_eq_ok_iff.mp hspot
  exact read_eq_ok_iff.mpr ⟨l, executable,
    locate_of_directories (t := t₀) hdir (fun _ => directory_put hne hdirs _) hend hlocate,
    by rw [entryAt?_put (ne_nil_of_entryAt? hne), if_pos rfl]⟩

/-- **What was written is read.** -/
theorem read_of_write (h : (write p content).run t = (.ok (), t')) : t'.read p = .ok content := by
  rcases write_cases p content t with ⟨e, hrun⟩ | ⟨l, executable, hspot, hrun⟩ <;> rw [hrun] at h
  · cases h
  · cases h
    exact read_put_fileSpot hspot rfl (fun _ hk => hk) content executable

/-- **What was moved is read where it was moved to.** -/
theorem read_of_rename (hroot : t.Rooted) (h : (rename p q).run t = (.ok (), t'))
    (hread : t.read p = .ok content) : t'.read q = .ok content := by
  rcases rename_cases p q t with ⟨e, hrun⟩ | ⟨l, m, found, executable, hlocate, hspot, hentry, hrun⟩
    <;> rw [hrun] at h
  · cases h
  · cases h
    obtain ⟨k, executable', hlocate', hentry'⟩ := read_eq_ok_iff.mp hread
    obtain rfl := locate_unique rfl hlocate hlocate'
    rw [hentry, Option.some.injEq, Entry.file.injEq] at hentry'
    obtain ⟨rfl, -⟩ := hentry'
    have hdir : (t.cut l).workingDir = t.workingDir := rfl
    exact read_put_fileSpot hspot hdir (fun _ hk => hroot.directory_cut hentry hk) found executable

/-- **What was removed is not there.** -/
theorem isPresent_of_removeFile (h : (removeFile p).run t = (.ok (), t')) :
    t'.isPresent p = false := by
  rcases removeFile_cases p t with ⟨e, hrun, -⟩ | ⟨l, content, executable, hlocate, hentry, hrun⟩
    <;> rw [hrun] at h
  · cases h
  · cases h
    cases hlocate' : (t.cut l).locate p with
    | error e => simp [isPresent, get?, hlocate']
    | ok m =>
      have hdir : (t.cut l).workingDir = t.workingDir := rfl
      obtain rfl := locate_unique hdir hlocate hlocate'
      have hne : t.entryAt? l ≠ some .directory := by simp [hentry]
      simp [isPresent, get?, hlocate', entryAt?_cut, ne_nil_of_entryAt? hne]

/-- A tree stays rooted when a file is put where one may be written. -/
theorem Rooted.put_fileSpot (h : t.Rooted) (hspot : t.fileSpot p = .ok l) (content : ByteArray)
    (executable : Bool) : (t.put l (.file content executable)).Rooted := by
  obtain ⟨hlocate, hne, -⟩ := fileSpot_eq_ok_iff.mp hspot
  exact h.put (ne_nil_of_entryAt? hne) (h.parent_of_locate hlocate hne) (Or.inr hne)

end Runs

end FileTree

/-! ## Operations that keep trees rooted -/

namespace FileAction

open FileTree

variable {ε ε' α β : Type}

/-- **An operation that keeps trees rooted**, whether it succeeds or not. -/
def KeepsRooted (a : FileAction ε α) : Prop := ∀ t, t.Rooted → (a.run t).2.Rooted

theorem KeepsRooted.rooted {a : FileAction ε α} (ha : KeepsRooted a) {t t' : FileTree}
    {reply : Except ε α} (h : a.run t = (reply, t')) (ht : t.Rooted) : t'.Rooted := by
  have hroot := ha t ht
  rwa [h] at hroot

theorem KeepsRooted.pure (x : α) : KeepsRooted (Pure.pure x : FileAction ε α) := fun _ h => h

theorem KeepsRooted.bind {a : FileAction ε α} {f : α → FileAction ε β} (ha : KeepsRooted a)
    (hf : ∀ x, KeepsRooted (f x)) : KeepsRooted (a >>= f) := by
  intro t ht
  have hfirst := ha t ht
  rw [run_bind]
  rcases hrun : a.run t with ⟨e | x, t'⟩ <;> rw [hrun] at hfirst
  · exact hfirst
  · exact hf x t' hfirst

/-- Operations one after the other keep trees rooted if each one does. -/
theorem KeepsRooted.forM {actions : List (FileAction ε Unit)}
    (h : ∀ a ∈ actions, KeepsRooted a) : KeepsRooted (actions.forM id) := by
  induction actions with
  | nil => exact .pure _
  | cons a actions ih =>
    obtain ⟨ha, hrest⟩ := List.forall_mem_cons.mp h
    exact .bind ha fun _ => ih hrest

theorem KeepsRooted.adapt {f : ε → ε'} {a : FileAction ε α} (ha : KeepsRooted a) :
    KeepsRooted (ExceptT.adapt f a) := ha

theorem keepsRooted_write (p : Path) (content : ByteArray) : KeepsRooted (write p content) := by
  intro t ht
  rcases write_cases p content t with ⟨e, hrun⟩ | ⟨l, executable, hspot, hrun⟩ <;> rw [hrun]
  · exact ht
  · exact ht.put_fileSpot hspot content executable

theorem keepsRooted_removeFile (p : Path) : KeepsRooted (removeFile p) := by
  intro t ht
  rcases removeFile_cases p t with ⟨e, hrun, -⟩ | ⟨l, content, executable, -, -, hrun⟩ <;> rw [hrun]
  · exact ht
  · exact ht.cut l

theorem keepsRooted_rename (p q : Path) : KeepsRooted (rename p q) := by
  intro t ht
  rcases rename_cases p q t with ⟨e, hrun⟩ | ⟨l, m, content, executable, -, hspot, hentry, hrun⟩
    <;> rw [hrun]
  · exact ht
  · -- the directory to which the file is moved does not stand below the file
    obtain ⟨hlocate, hne, -⟩ := fileSpot_eq_ok_iff.mp hspot
    have hparent := ht.parent_of_locate hlocate hne
    refine (ht.cut l).put (ne_nil_of_entryAt? hne) (ht.directory_cut hentry hparent) (Or.inr ?_)
    rw [entryAt?_cut]
    split
    · simp
    · exact hne

/-- The directories along a list of names are created one after the other. -/
theorem run_makeDirsFrom_cons (here : List String) (start : Location) (s : String)
    (names : List String) (t : FileTree) :
    (makeDirsFrom here start (s :: names)).run t =
      match t.follow start (here ++ [s]) with
      | .error e => (.error e, t)
      | .ok l =>
        match t.entryAt? l with
        | some .directory => (makeDirsFrom (here ++ [s]) start names).run t
        | some (.file ..) => (.error (if names.isEmpty then .fileExists else .notDirectory), t)
        | none => (makeDirsFrom (here ++ [s]) start names).run (t.put l .directory) := by
  have hlift (r : Except Fault Location) : (makeDirsFrom.liftExcept r).run t = (r, t) := rfl
  rw [makeDirsFrom]
  simp only [run_bind, run_get, hlift]
  cases t.follow start (here ++ [s]) with
  | error e => rfl
  | ok l =>
    dsimp only
    rcases t.entryAt? l with - | (⟨content, executable⟩ | -) <;>
      simp only [run_bind, run_get, run_set, run_throw]

theorem keepsRooted_makeDirsFrom (here : List String) (start : Location) (names : List String) :
    KeepsRooted (makeDirsFrom here start names) := by
  induction names generalizing here with
  | nil => exact .pure _
  | cons s names ih =>
    intro t ht
    rw [run_makeDirsFrom_cons]
    cases hfollow : t.follow start (here ++ [s]) with
    | error e => exact ht
    | ok l =>
      dsimp only
      rcases hentry : t.entryAt? l with - | (⟨content, executable⟩ | -)
      · -- the new directory stands in the one to which the names before have led
        have hne : t.entryAt? l ≠ some .directory := by simp [hentry]
        exact ih _ _ (ht.put (ne_nil_of_entryAt? hne)
          (ht.parent_of_follow (by simp) hfollow hne) (Or.inl rfl))
      · exact ht
      · exact ih _ _ ht

/-- **The directories of a path** are created along its segments, unless its text may not be
followed. -/
theorem run_makeDirs_cases (p : Path) (t : FileTree) :
    (∃ reply, (makeDirs p).run t = (reply, t)) ∨
      (makeDirs p).run t = (makeDirsFrom [] (t.startOf p) p.segments).run t := by
  unfold makeDirs
  dsimp only
  split
  · exact Or.inl ⟨_, rfl⟩
  · split
    · exact Or.inl ⟨_, rfl⟩
    · split
      · exact Or.inl ⟨_, rfl⟩
      · exact Or.inr rfl

theorem keepsRooted_makeDirs (p : Path) : KeepsRooted (makeDirs p) := by
  intro t ht
  rcases run_makeDirs_cases p t with ⟨reply, hrun⟩ | hrun <;> rw [hrun]
  · exact ht
  · exact keepsRooted_makeDirsFrom _ _ _ t ht

end FileAction

end RtlFlow
