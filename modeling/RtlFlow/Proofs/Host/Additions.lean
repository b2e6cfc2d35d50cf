import RtlFlow.Host.Copy
import RtlFlow.Proofs.Host.SideFiles

/-! # What is added to a file tree leaves the rest

Directories are created only where nothing stands, so the tree holds what it held before
(`FileTree.Within`). A file that is written may replace another one, but every directory is still
there, so a path leads where it led (`FileTree.SameWays`); and a file is read as before unless the
path of the one that was written leads to the same place (`read_of_run_writeText`). -/

namespace RtlFlow

namespace FileTree

variable {t t' t'' : FileTree} {p q : Path} {l : Location} {content content' : ByteArray}

/-- **A tree in which paths lead where they lead in another one.** -/
structure SameWays (t t' : FileTree) : Prop where
  /-- Relative paths are followed from the same directory. -/
  workingDir : t'.workingDir = t.workingDir
  /-- Every directory is still there. -/
  directories : ∀ k, t.entryAt? k = some .directory → t'.entryAt? k = some .directory

/-- **A tree that holds all that another one holds.** -/
structure Within (t t' : FileTree) : Prop where
  /-- Relative paths are followed from the same directory. -/
  workingDir : t'.workingDir = t.workingDir
  /-- Every entry is still there. -/
  entries : ∀ k e, t.entryAt? k = some e → t'.entryAt? k = some e

theorem SameWays.trans (h : SameWays t t') (h' : SameWays t' t'') : SameWays t t'' :=
  ⟨h'.workingDir.trans h.workingDir, fun k hk => h'.directories k (h.directories k hk)⟩

theorem Within.refl (t : FileTree) : Within t t := ⟨rfl, fun _ _ h => h⟩

theorem Within.trans (h : Within t t') (h' : Within t' t'') : Within t t'' :=
  ⟨h'.workingDir.trans h.workingDir, fun k e hk => h'.entries k e (h.entries k e hk)⟩

/-- What is free was free before something was added. -/
theorem Within.free (h : Within t t') (hl : t'.entryAt? l = none) : t.entryAt? l = none := by
  by_contra hentry
  obtain ⟨e, he⟩ := Option.ne_none_iff_exists'.mp hentry
  rw [h.entries l e he] at hl
  cases hl

theorem Within.sameWays (h : Within t t') : SameWays t t' :=
  ⟨h.workingDir, fun k hk => h.entries k _ hk⟩

/-- The path of a file that can be read does not end in a separator. -/
theorem endsInSeparator_of_read (h : t.read p = .ok content) : endsInSeparator p = false := by
  obtain ⟨l, executable, hlocate, hentry⟩ := read_eq_ok_iff.mp h
  by_contra hend
  exact (locate_eq_ok_iff.mp hlocate).2.2 (by simpa using hend) content executable hentry

/-- **The path of a file leads where it led.** -/
theorem SameWays.locate (h : SameWays t t') (hread : t.read p = .ok content) :
    t'.locate p = t.locate p := by
  obtain ⟨l, executable, hlocate, -⟩ := read_eq_ok_iff.mp hread
  rw [hlocate]
  exact locate_of_directories h.workingDir h.directories (endsInSeparator_of_read hread) hlocate

/-- **A file is read as before** in a tree that holds it. -/
theorem Within.read (h : Within t t') (hread : t.read p = .ok content) :
    t'.read p = .ok content := by
  obtain ⟨l, executable, hlocate, hentry⟩ := read_eq_ok_iff.mp hread
  exact read_eq_ok_iff.mpr ⟨l, executable, (h.sameWays.locate hread).trans hlocate,
    h.entries l _ hentry⟩

/-- An entry is added where nothing stands. -/
theorem within_put {e : Entry} (hl : t.entryAt? l = none) : Within t (t.put l e) := by
  refine ⟨rfl, fun k e' hk => ?_⟩
  rw [entryAt?_put (ne_nil_of_entryAt? (t := t) (by simp [hl])), if_neg, hk]
  rintro rfl
  rw [hl] at hk
  cases hk

end FileTree

namespace FileAction

open FileTree

variable {ε ε' α : Type}

/-- **An operation that only adds**, whether it succeeds or not. -/
def OnlyAdds (a : FileAction ε α) : Prop := ∀ t, Within t (a.run t).2

theorem OnlyAdds.within {a : FileAction ε α} (ha : OnlyAdds a) {t t' : FileTree}
    {reply : Except ε α} (h : a.run t = (reply, t')) : Within t t' := by
  have hwithin := ha t
  rwa [h] at hwithin

theorem OnlyAdds.pure (x : α) : OnlyAdds (Pure.pure x : FileAction ε α) := fun t => .refl t

theorem OnlyAdds.adapt {f : ε → ε'} {a : FileAction ε α} (ha : OnlyAdds a) :
    OnlyAdds (ExceptT.adapt f a) := ha

theorem onlyAdds_makeDirsFrom (here : List String) (start : Location) (names : List String) :
    OnlyAdds (makeDirsFrom here start names) := by
  induction names generalizing here with
  | nil => exact .pure _
  | cons s names ih =>
    intro t
    rw [run_makeDirsFrom_cons]
    cases t.follow start (here ++ [s]) with
    | error e => exact .refl t
    | ok l =>
      dsimp only
      rcases hentry : t.entryAt? l with - | (⟨content, executable⟩ | -)
      · exact (within_put hentry).trans (ih _ _)
      · exact .refl t
      · exact ih _ t

/-- **Creating directories only adds.** -/
theorem onlyAdds_makeDirs (p : Path) : OnlyAdds (makeDirs p) := by
  intro t
  rcases run_makeDirs_cases p t with ⟨reply, hrun⟩ | hrun <;> rw [hrun]
  · exact .refl t
  · exact onlyAdds_makeDirsFrom _ _ _ t

theorem onlyAdds_ensureDir (p : Path) : OnlyAdds (Host.ensureDir p) := (onlyAdds_makeDirs p).adapt

theorem onlyAdds_ensureParent (p : Path) : OnlyAdds (Host.ensureParent p) := by
  unfold Host.ensureParent
  split
  · exact onlyAdds_ensureDir _
  · exact .pure _

end FileAction

namespace FileTree

open FileAction

variable {t t' : FileTree} {p q : Path} {content : ByteArray} {text : String}

/-- **What was written is read**, and paths lead where they led. -/
theorem sameWays_of_run_writeText (h : (Host.writeText p text).run t = (.ok (), t')) :
    SameWays t t' ∧ t'.read p = .ok text.toUTF8 := by
  obtain ⟨_, t₁, hparent, hwrite⟩ := exists_of_bind_eq_ok h
  have hways := ((onlyAdds_ensureParent p).within hparent).sameWays
  rcases write_cases p text.toUTF8 t₁ with ⟨e, hrun⟩ | ⟨l, executable, hspot, hrun⟩ <;>
    rw [run_adapt, hrun] at hwrite
  · cases hwrite
  · cases hwrite
    obtain ⟨-, hne, -⟩ := fileSpot_eq_ok_iff.mp hspot
    exact ⟨hways.trans ⟨rfl, fun k hk => directory_put hne (fun _ hk => hk) _ hk⟩,
      read_of_write hrun⟩

/-- **A file is read as before, or as what was written** when that was written in its place. -/
theorem read_of_run_writeText (h : (Host.writeText p text).run t = (.ok (), t'))
    (hread : t.read q = .ok content) :
    t'.read q = .ok (if t'.locate p = t'.locate q then text.toUTF8 else content) := by
  obtain ⟨hways, hown⟩ := sameWays_of_run_writeText h
  obtain ⟨k, executable, hk, hentry⟩ := read_eq_ok_iff.mp hown
  split
  · rename_i hplace
    exact read_eq_ok_iff.mpr ⟨k, executable, hplace ▸ hk, hentry⟩
  · rename_i hplace
    obtain ⟨_, t₁, hparent, hwrite⟩ := exists_of_bind_eq_ok h
    obtain ⟨m, executable', hm, hentry'⟩ :=
      read_eq_ok_iff.mp (((onlyAdds_ensureParent p).within hparent).read hread)
    have hm' : t'.locate q = .ok m := by
      rw [hways.locate hread, ← hm]
      exact (((onlyAdds_ensureParent p).within hparent).sameWays.locate hread).symm
    rcases write_cases p text.toUTF8 t₁ with ⟨e, hrun⟩ | ⟨l, executable₁, hspot, hrun⟩ <;>
      rw [run_adapt, hrun] at hwrite
    · cases hwrite
    · obtain rfl : t₁.put l (.file text.toUTF8 executable₁) = t' := (Prod.mk.inj hwrite).2
      obtain ⟨hl, hne, -⟩ := fileSpot_eq_ok_iff.mp hspot
      -- the file that was written is found where it was put
      have hdir : (t₁.put l (.file text.toUTF8 executable₁)).workingDir = t₁.workingDir := rfl
      obtain rfl : l = k := locate_unique hdir hl hk
      refine read_eq_ok_iff.mpr ⟨m, executable', hm', ?_⟩
      rw [entryAt?_put (ne_nil_of_entryAt? hne), if_neg, hentry']
      rintro rfl
      exact hplace (hk.trans hm'.symm)

end FileTree

end RtlFlow
