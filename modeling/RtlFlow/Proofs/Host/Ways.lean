import RtlFlow.Proofs.Host.Additions
import RtlFlow.Proofs.PathChildren

/-! # The way of a path

Which locations a path passes does not depend on what stands there (`FileTree.ways`), so it leads to
the same place in every tree with the same entries on its way (`locate_of_ways`). A path that points
to a location (`FileTree.Points`) needs nothing but this one, and a child of a directory points to a
location in it (`Points.child`). -/

namespace RtlFlow

namespace FileTree

open RtlFlow.Path (IsName)

variable {t t' : FileTree} {here d l : Location} {names : List String} {p : Path} {s : String}

/-! ## Locations on the way -/

/-- Where a name leads from a location. -/
def stepTo (here : Location) (s : String) : Location :=
  if s = "." then here else if s = ".." then here.dropLast else here ++ [s]

/-- **The locations that a path passes**, from its start to its place. -/
def ways (t : FileTree) (p : Path) : List Location := p.segments.scanl stepTo (t.startOf p)

/-- **The place of a path**, whether something stands there or not. -/
def placeOf (t : FileTree) (p : Path) : Location := p.segments.foldl stepTo (t.startOf p)

theorem stepTo_name (here : Location) (hs : IsName s) : stepTo here s = here ++ [s] := by
  rw [stepTo, if_neg hs.ne_point, if_neg hs.ne_up]

/-- A name is followed in a directory, from which it leads on. -/
theorem follow_cons_eq_ok_iff : t.follow here (s :: names) = .ok l ↔
    t.entryAt? here = some .directory ∧ (s = "." ∨ s = ".." ∨ ¬ maxName < s.utf8ByteSize) ∧
      t.follow (stepTo here s) names = .ok l := by
  rw [follow, stepTo]
  rcases t.entryAt? here with - | (⟨content, executable⟩ | -)
  · simp
  · simp
  · by_cases hpoint : s = "."
    · simp [hpoint]
    · by_cases hup : s = ".."
      · simp [hup]
      · by_cases hlong : maxName < s.utf8ByteSize <;> simp [hpoint, hup, hlong]

/-- **A path leads to its place**, if it leads anywhere. -/
theorem place_of_follow (h : t.follow here names = .ok l) : names.foldl stepTo here = l := by
  induction names generalizing here with
  | nil => exact Except.ok.inj h
  | cons s names ih => exact ih (follow_cons_eq_ok_iff.mp h).2.2

/-- **What a path passes are directories**, its place apart. -/
theorem directory_of_follow (h : t.follow here names = .ok l) :
    ∀ k ∈ names.scanl stepTo here, k = l ∨ t.entryAt? k = some .directory := by
  induction names generalizing here with
  | nil =>
    rw [List.scanl_nil]
    exact List.forall_mem_singleton.mpr (Or.inl (Except.ok.inj h))
  | cons s names ih =>
    obtain ⟨hdir, -, hrest⟩ := follow_cons_eq_ok_iff.mp h
    rw [List.scanl_cons]
    exact List.forall_mem_cons.mpr ⟨Or.inr hdir, ih hrest⟩

/-- Names are followed alike where the same stands on their way. -/
theorem follow_of_ways (h : ∀ k ∈ names.scanl stepTo here, t'.entryAt? k = t.entryAt? k) :
    t'.follow here names = t.follow here names := by
  induction names generalizing here with
  | nil => rfl
  | cons s names ih =>
    rw [List.scanl_cons] at h
    obtain ⟨hhere, hrest⟩ := List.forall_mem_cons.mp h
    have hnext := ih hrest
    rw [follow, follow, hhere]
    rcases t.entryAt? here with - | (⟨content, executable⟩ | -)
    · rfl
    · rfl
    · unfold stepTo at hnext
      by_cases hpoint : s = "."
      · simpa [hpoint] using hnext
      · by_cases hup : s = ".."
        · simpa [hup] using hnext
        · simp only [if_neg hpoint, if_neg hup] at hnext ⊢
          rw [hnext]

/-- The place is the last location on the way. -/
theorem foldl_mem_scanl (here : Location) (names : List String) :
    names.foldl stepTo here ∈ names.scanl stepTo here := by
  have hne : names.scanl stepTo here ≠ [] := by cases names <;> simp
  rw [← List.getLast_scanl hne]
  exact List.getLast_mem hne

theorem placeOf_mem_ways (t : FileTree) (p : Path) : t.placeOf p ∈ t.ways p :=
  foldl_mem_scanl _ _

/-- The way of names in front of others is the first part of theirs. -/
theorem scanl_subset_append (here : Location) (names more : List String) :
    names.scanl stepTo here ⊆ (names ++ more).scanl stepTo here := by
  rw [List.scanl_append]
  exact List.subset_append_left _ _

theorem ways_of_workingDir (h : t'.workingDir = t.workingDir) (p : Path) :
    t'.ways p = t.ways p := by
  simp [ways, startOf, h]

theorem placeOf_of_workingDir (h : t'.workingDir = t.workingDir) (p : Path) :
    t'.placeOf p = t.placeOf p := by
  simp [placeOf, startOf, h]

theorem placeOf_of_locate (h : t.locate p = .ok l) : t.placeOf p = l :=
  place_of_follow (locate_eq_ok_iff.mp h).2.1

/-- Only the root has no name to follow. -/
theorem startOf_eq_nil (htext : p.text.isEmpty = false) (h : p.segments = []) :
    t.startOf p = [] := by
  have habsolute : p.isAbsolute = true := by
    by_contra hrelative
    exact Path.segments_ne_nil htext (by simpa using hrelative) h
  rw [startOf, if_pos habsolute]

theorem exists_locate_of_isDir (h : t.isDir p = true) :
    t.locate p = .ok (t.placeOf p) ∧ t.entryAt? (t.placeOf p) = some .directory := by
  unfold isDir get? at h
  cases hlocate : t.locate p with
  | error e => simp [hlocate] at h
  | ok l =>
    obtain rfl := placeOf_of_locate hlocate
    rw [hlocate] at h
    dsimp only at h
    split at h
    · rename_i hentry
      exact ⟨rfl, hentry⟩
    · cases h

/-- **A path leads to the same place** in a tree in which the same stands on its way. -/
theorem locate_of_ways (hdir : t'.workingDir = t.workingDir)
    (h : ∀ k ∈ t.ways p, t'.entryAt? k = t.entryAt? k) : t'.locate p = t.locate p := by
  have hstart : t'.startOf p = t.startOf p := by simp [startOf, hdir]
  have hfollow : t'.follow (t.startOf p) p.segments = t.follow (t.startOf p) p.segments :=
    follow_of_ways h
  unfold locate
  rw [hstart, hfollow]
  cases hplace : t.follow (t.startOf p) p.segments with
  | error e => rfl
  | ok l =>
    have hl : t'.entryAt? l = t.entryAt? l :=
      h l (place_of_follow hplace ▸ placeOf_mem_ways t p)
    simp only [bind, Except.bind, hl]

/-- **A path that led to a place leads there still** when the same stands there, or a directory. -/
theorem SameWays.locate_kept (h : SameWays t t') (hl : t.locate p = .ok l)
    (hentry : t'.entryAt? l = t.entryAt? l ∨ t'.entryAt? l = some .directory) :
    t'.locate p = .ok l := by
  have hstart : t'.startOf p = t.startOf p := by simp [startOf, h.workingDir]
  obtain ⟨htext, hfollow, hend⟩ := locate_eq_ok_iff.mp hl
  refine locate_eq_ok_iff.mpr ⟨htext, hstart ▸ follow_of_directories h.directories hfollow, ?_⟩
  rcases hentry with hentry | hentry <;> rw [hentry]
  · exact hend
  · rintro - content executable ⟨⟩

/-- What a path with a separator at its end leads to as a directory is that to which it leads
without. -/
theorem locate_of_join_empty (htext : p.text ≠ "") (h : t.locate (p.join ⟨""⟩) = .ok l)
    (hdir : t.entryAt? l = some .directory) : t.locate p = .ok l := by
  have hstart : t.startOf (p.join ⟨""⟩) = t.startOf p := by
    simp [startOf, Path.isAbsolute_join_empty]
  obtain ⟨⟨hnul, -, hlong⟩, hfollow, -⟩ := locate_eq_ok_iff.mp h
  rw [hstart, Path.segments_join_empty] at hfollow
  -- the text of the one is part of that of the other
  obtain ⟨rest, hrest⟩ := Path.exists_text_join_empty p
  rw [hrest, String.toList_append, List.any_append, Bool.or_eq_false_iff] at hnul
  rw [hrest, String.utf8ByteSize_append] at hlong
  refine locate_eq_ok_iff.mpr ⟨⟨hnul.1, by simpa using htext, by omega⟩, hfollow, ?_⟩
  rw [hdir]
  rintro - content executable ⟨⟩

/-! ## Children -/

theorem ways_child (hs : IsName s) : t.ways (p.child s) = t.ways p ++ [t.placeOf p ++ [s]] := by
  have hstart : t.startOf (p.child s) = t.startOf p := by simp [startOf, Path.isAbsolute_child hs]
  rw [ways, hstart, Path.segments_child hs, List.scanl_append, List.scanl_cons, List.scanl_nil,
    stepTo_name _ hs]
  rfl

/-- **The place of a child** is in that of the directory. -/
theorem placeOf_child (hs : IsName s) : t.placeOf (p.child s) = t.placeOf p ++ [s] := by
  have hstart : t.startOf (p.child s) = t.startOf p := by simp [startOf, Path.isAbsolute_child hs]
  rw [placeOf, hstart, Path.segments_child hs, List.foldl_append, List.foldl_cons, List.foldl_nil,
    stepTo_name _ hs]
  rfl

/-! ## Paths that point to a location -/

/-- **A path that points to a location**: everything else that it passes is a directory. -/
structure Points (t : FileTree) (p : Path) (d : Location) : Prop where
  /-- The location is its place. -/
  place : t.placeOf p = d
  /-- What it passes. -/
  passes : ∀ k ∈ t.ways p, k = d ∨ t.entryAt? k = some .directory

/-- A path points to where it leads. -/
theorem points_of_locate (h : t.locate p = .ok l) : t.Points p l :=
  ⟨placeOf_of_locate h, directory_of_follow (locate_eq_ok_iff.mp h).2.1⟩

/-- A path points to where it pointed when all directories are still there. -/
theorem Points.of_sameWays (h : t.Points p d) (hways : SameWays t t') : t'.Points p d := by
  refine ⟨(placeOf_of_workingDir hways.workingDir p).trans h.place, ?_⟩
  rw [ways_of_workingDir hways.workingDir]
  exact fun k hk => (h.passes k hk).imp_right (hways.directories k)

/-- **The path of a child** points into a directory. -/
theorem Points.child (h : t.Points p d) (hd : t.entryAt? d = some .directory) (hs : IsName s) :
    t.Points (p.child s) (d ++ [s]) := by
  refine ⟨by rw [placeOf_child hs, h.place], ?_⟩
  rw [ways_child hs, h.place]
  refine List.forall_mem_append.mpr ⟨fun k hk => Or.inr ?_, by simp⟩
  rcases h.passes k hk with rfl | hdir
  · exact hd
  · exact hdir

/-- A separator at the end leads nowhere else. -/
theorem Points.join_empty (h : t.Points p d) : t.Points (p.join ⟨""⟩) d := by
  have hstart : t.startOf (p.join ⟨""⟩) = t.startOf p := by
    simp [startOf, Path.isAbsolute_join_empty]
  obtain ⟨hplace, hpasses⟩ := h
  refine ⟨?_, ?_⟩
  · rw [placeOf, hstart, Path.segments_join_empty]
    exact hplace
  · rw [ways, hstart, Path.segments_join_empty]
    exact hpasses

/-- **What a path leads to and is no directory** stands in one, under a name. -/
theorem Rooted.exists_name_of_follow (h : t.Rooted) (hnames : names ≠ [])
    (hfollow : t.follow here names = .ok l) (hl : t.entryAt? l ≠ some .directory) :
    ∃ dir s, l = dir ++ [s] ∧ t.entryAt? dir = some .directory ∧ s ∈ names ∧ s ≠ "." ∧
      s ≠ ".." := by
  -- only behind the last name may something else than a directory stand
  induction names generalizing here with
  | nil => exact absurd rfl hnames
  | cons s names ih =>
    obtain ⟨hdir, -, hrest⟩ := follow_cons_eq_ok_iff.mp hfollow
    by_cases hempty : names = []
    · subst hempty
      obtain rfl := Except.ok.inj hrest
      unfold stepTo at hl ⊢
      by_cases hpoint : s = "."
      · rw [if_pos hpoint] at hl
        exact absurd hdir hl
      · rw [if_neg hpoint] at hl ⊢
        by_cases hup : s = ".."
        · rw [if_pos hup] at hl
          exact absurd (h.directory_dropLast hdir) hl
        · rw [if_neg hup]
          exact ⟨here, s, rfl, hdir, by simp, hpoint, hup⟩
    · obtain ⟨dir, s', hplace, hdir', hmem, hs'⟩ := ih hempty hrest
      exact ⟨dir, s', hplace, hdir', List.mem_cons_of_mem s hmem, hs'⟩

end FileTree

end RtlFlow
