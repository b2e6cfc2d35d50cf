import RtlFlow.Proofs.Host.SideFiles
import RtlFlow.Proofs.Host.Writes

/-! # Paths that are short enough

The machine follows a path only when its text and its names are short enough, and follows no NUL. A
path that it follows can be followed one name further under these conditions alone
(`locate_child`). To a place that a path leads to a directory can be created
(`exists_run_ensureDir`), and a file can be copied (`exists_run_copyFile`). -/

namespace RtlFlow

namespace Path

variable {p q : Path} {s : String}

/-- The text of a path taken from another one has both texts, with a separator between them if one
is missing. -/
theorem exists_text_join (p : Path) (hq : q.isAbsolute = false) :
    ∃ sep, (sep = "" ∨ sep = "/") ∧ (p.join q).text = p.text ++ sep ++ q.text := by
  unfold join
  rw [if_neg (by simp [hq])]
  split
  · exact ⟨"", Or.inl rfl, by simp⟩
  · exact ⟨"/", Or.inr rfl, rfl⟩

/-- There is no NUL in a path taken from another one when there is none in both. -/
theorem noNul_join (hq : q.isAbsolute = false) (hnul : p.text.toList.any (· = '\x00') = false)
    (hnul' : q.text.toList.any (· = '\x00') = false) :
    (p.join q).text.toList.any (· = '\x00') = false := by
  obtain ⟨sep, hsep, htext⟩ := exists_text_join p hq
  have hsep : sep.toList.any (· = '\x00') = false := by rcases hsep with rfl | rfl <;> decide
  rw [htext, String.toList_append, String.toList_append, List.any_append, List.any_append, hnul,
    hsep, hnul']
  rfl

/-- **The text of a child is longer.** -/
theorem size_lt_size_child (h : IsName s) :
    p.text.utf8ByteSize < (p.child s).text.utf8ByteSize := by
  obtain ⟨sep, -, htext⟩ := exists_text_join p h.isAbsolute
  have hpos : s.utf8ByteSize ≠ 0 := by
    simpa [String.utf8ByteSize_eq_zero_iff] using h.ne_empty
  rw [child, htext, String.utf8ByteSize_append, String.utf8ByteSize_append]
  dsimp only
  omega

/-- A child has no separator at its end. -/
theorem getLast?_text_child (h : IsName s) : (p.child s).text.toList.getLast? ≠ some '/' := by
  obtain ⟨sep, -, htext⟩ := exists_text_join p h.isAbsolute
  have hne : s.toList ≠ [] := by simpa using h.ne_empty
  rw [child, htext, String.toList_append, List.getLast?_append_of_ne_nil _ hne]
  exact fun hlast => h.noSeparator (List.mem_of_getLast? hlast)

end Path

namespace FileTree

open RtlFlow.Path (IsName)

variable {t : FileTree} {l d here start : Location} {p : Path} {s : String} {names : List String}

/-! ## Names and paths -/

/-- **A name that the machine follows.** -/
structure FitsName (s : String) : Prop where
  /-- It is short enough. -/
  size : s.utf8ByteSize ≤ maxName
  /-- There is no NUL in it. -/
  noNul : s.toList.any (· = '\x00') = false

instance (s : String) : Decidable (FitsName s) :=
  decidable_of_iff (s.utf8ByteSize ≤ maxName ∧ s.toList.any (· = '\x00') = false)
    ⟨fun h => ⟨h.1, h.2⟩, fun h => ⟨h.1, h.2⟩⟩

/-- **All that stands at a location and below it fits** behind a path: so it has names that the
machine follows, and is reached by texts that are short enough. -/
def Fits (t : FileTree) (l : Location) (p : Path) : Prop :=
  ∀ k, t.entryAt? (l ++ k) ≠ none →
    (∀ s ∈ k, FitsName s) ∧ (k.foldl Path.child p).text.utf8ByteSize < maxPath

/-- What stands below an entry of a directory fits behind its path. -/
theorem Fits.child (h : t.Fits l p) (s : String) : t.Fits (l ++ [s]) (p.child s) := by
  intro k hk
  obtain ⟨hnames, hsize⟩ := h (s :: k) (by simpa using hk)
  exact ⟨fun n hn => hnames n (List.mem_cons_of_mem s hn), hsize⟩

/-- The same fits where the same stands. -/
theorem Fits.congr {t' : FileTree} (h : t.Fits l p)
    (hsame : ∀ k, t'.entryAt? (l ++ k) = t.entryAt? (l ++ k)) : t'.Fits l p :=
  fun k hk => h k (hsame k ▸ hk)

/-- What stands below a location fits when every entry does. -/
theorem fits_of_entries (hl : l ≠ []) (h : ∀ x ∈ t.entries, l <+: x.1 →
    (∀ s ∈ x.1.drop l.length, FitsName s) ∧
      ((x.1.drop l.length).foldl Path.child p).text.utf8ByteSize < maxPath) : t.Fits l p := by
  intro k hk
  obtain ⟨x, hx, hkey⟩ := List.mem_map.mp ((mem_keys_iff (by simp [hl])).mpr hk)
  have hfits := h x hx (hkey ▸ List.prefix_append l k)
  rwa [hkey, List.drop_left] at hfits

/-- **A path is followed one name further** in a directory. -/
theorem locate_child (h : t.locate p = .ok d) (hd : t.entryAt? d = some .directory) (hs : IsName s)
    (hfits : FitsName s) (hsize : (p.child s).text.utf8ByteSize < maxPath) :
    t.locate (p.child s) = .ok (d ++ [s]) := by
  obtain ⟨⟨hnul, -, -⟩, hfollow, -⟩ := locate_eq_ok_iff.mp h
  have hstart : t.startOf (p.child s) = t.startOf p := by simp [startOf, Path.isAbsolute_child hs]
  refine locate_eq_ok_iff.mpr
    ⟨⟨Path.noNul_join hs.isAbsolute hnul hfits.noNul, ?_, by omega⟩, ?_, fun hend => ?_⟩
  · have hpos := Path.size_lt_size_child (p := p) hs
    rw [← Bool.not_eq_true, String.isEmpty_iff]
    intro hempty
    rw [hempty] at hpos
    exact Nat.not_lt_zero _ hpos
  · -- one more name is followed in the directory that the path leads to
    rw [hstart, Path.segments_child hs]
    have hlast : t.follow d [s] = .ok (d ++ [s]) :=
      follow_cons_eq_ok_iff.mpr ⟨hd, Or.inr (Or.inr (Nat.not_lt.mpr hfits.size)),
        by rw [stepTo_name d hs]; rfl⟩
    exact follow_append_eq_ok_iff.mpr ⟨d, hfollow, hlast⟩
  · exact absurd (by simpa [endsInSeparator] using hend) (Path.getLast?_text_child hs)

/-- A separator may be put behind a path that leads to no file. -/
theorem locate_join_empty (h : t.locate p = .ok d)
    (hd : ∀ content executable, t.entryAt? d ≠ some (.file content executable))
    (hsize : (p.join ⟨""⟩).text.utf8ByteSize < maxPath) : t.locate (p.join ⟨""⟩) = .ok d := by
  obtain ⟨⟨hnul, hempty, -⟩, hfollow, -⟩ := locate_eq_ok_iff.mp h
  have hstart : t.startOf (p.join ⟨""⟩) = t.startOf p := by
    simp [startOf, Path.isAbsolute_join_empty]
  refine locate_eq_ok_iff.mpr ⟨⟨Path.noNul_join (by decide) hnul (by decide), ?_, by omega⟩, ?_,
    fun _ => hd⟩
  · obtain ⟨rest, htext⟩ := Path.exists_text_join_empty p
    rw [htext, ← Bool.not_eq_true, String.isEmpty_iff, String.append_eq_empty_iff]
    rintro ⟨htext, -⟩
    simp [htext] at hempty
  · rw [hstart, Path.segments_join_empty, hfollow]

end FileTree

namespace FileAction

open FileTree

variable {t : FileTree} {l d start : Location} {source target p : Path} {here names : List String}

/-- **Directories are created** along names that are followed to no file. -/
theorem exists_run_makeDirsFrom (h : t.follow start (here ++ names) = .ok d)
    (hd : ∀ content executable, t.entryAt? d ≠ some (.file content executable)) :
    ∃ t', (makeDirsFrom here start names).run t = (.ok (), t') := by
  -- on the names; all but the last one lead to directories that are there
  induction names generalizing here with
  | nil => exact ⟨t, rfl⟩
  | cons s names ih =>
    rw [List.append_cons] at h
    obtain ⟨k, hk, hrest⟩ := follow_append_eq_ok_iff.mp h
    rw [run_makeDirsFrom_cons, hk]
    dsimp only
    cases names with
    | nil =>
      obtain rfl := Except.ok.inj hrest
      rcases hentry : t.entryAt? k with - | (⟨content, executable⟩ | -)
      · exact ⟨_, rfl⟩
      · exact absurd hentry (hd content executable)
      · exact ⟨_, rfl⟩
    | cons s' names =>
      -- what is followed on is a directory
      rw [(follow_cons_eq_ok hrest).1]
      exact ih h

/-- **A directory is created** where a path leads to no file. -/
theorem exists_run_ensureDir (h : t.locate p = .ok d)
    (hd : ∀ content executable, t.entryAt? d ≠ some (.file content executable)) :
    ∃ t', (Host.ensureDir p).run t = (.ok (), t') := by
  obtain ⟨⟨hnul, hempty, hlong⟩, hfollow, -⟩ := locate_eq_ok_iff.mp h
  have hfrom : ∃ t', (makeDirsFrom [] (t.startOf p) p.segments).run t = (.ok (), t') :=
    exists_run_makeDirsFrom hfollow hd
  obtain ⟨t', hrun⟩ := hfrom
  have hmake : (makeDirs p).run t = (.ok (), t') := by
    unfold makeDirs
    rw [if_neg (by simp [hempty]), if_neg (by simp [hnul]), if_neg hlong]
    exact hrun
  exact ⟨t', run_adapt_eq_ok_iff.mpr hmake⟩

/-- **A file is copied** to where a path leads to no directory. -/
theorem exists_run_copyFile {content : ByteArray} {executable : Bool}
    (hsource : t.locate source = .ok l) (hl : t.entryAt? l = some (.file content executable))
    (hname : target.fileName? ≠ none) (htarget : t.fileSpot target = .ok d) :
    ∃ t', (Host.copyFile source target).run t = (.ok (), t') := by
  obtain ⟨name, hname⟩ := Option.ne_none_iff_exists'.mp hname
  have hparent : (Host.ensureParent target).run t = (.ok (), t) := by
    unfold Host.ensureParent
    cases hq : target.parent? with
    | none => rfl
    | some q =>
      have hmake := (run_makeDirs_of_locate hname hq (fileSpot_eq_ok_iff.mp htarget).1).1
      exact run_adapt_eq_ok_iff.mpr hmake
  have hcopy : ∃ t', (copy source target).run t = (.ok (), t') := by
    rcases copy_cases source target t with ⟨e, hrun⟩ | ⟨_, _, _, _, -, -, -, hrun⟩
    · unfold copy at hrun
      rw [run_bind, run_get] at hrun
      simp only [hsource, hl, htarget] at hrun
      cases hrun
    · exact ⟨_, hrun⟩
  obtain ⟨t', hrun⟩ := hcopy
  refine ⟨t', ?_⟩
  unfold Host.copyFile
  rw [run_bind, hparent]
  exact run_adapt_eq_ok_iff.mpr hrun

end FileAction

end RtlFlow
