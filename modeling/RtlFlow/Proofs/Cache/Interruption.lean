import RtlFlow.Proofs.Cache.Durability
import RtlFlow.Proofs.Host.SideFiles

/-! # Saves that are cut off

A file is stored in three steps: its directory is created, the content is written into a file beside
it, and that is moved to its place. A save may stop at each of them: between two directories, behind
any number of bytes, or behind the move, which happens as a whole or not at all. Where a content was
stored before, a file that is loaded afterwards gives that content or the new one
(`CacheStore.interrupted_save`), and after any number of such saves it gives one of the contents
that were moved (`CacheStore.load_foldl_leftBy`). -/

namespace RtlFlow

open FileAction

namespace CacheStore

variable {t : FileTree} {p : Path} {name : String} {c c₀ : CacheContent}

/-- **Where a save stops.** -/
inductive SaveStop where
  /-- While the directory of the file is created, behind a number of names of its path. -/
  | making (names : Nat)
  /-- While the file beside is written, behind a number of bytes. -/
  | writing (bytes : Nat)
  /-- Behind the move, whether that was possible or not. -/
  | moving
  deriving DecidableEq, Repr

/-- **The steps of a save that stops.** -/
def stoppedSteps (p : Path) (bytes : ByteArray) : SaveStop → List (FileAction Fault Unit)
  | .making n =>
    match p.parent? with
    | some parent => [do FileTree.makeDirsFrom [] ((← get).startOf parent) (parent.segments.take n)]
    | none => []
  | .writing n => [makeParent p, FileTree.write (sidePath p) (bytes.extract 0 n)]
  | .moving => saveSteps p bytes

/-- **The tree that is left** by a save that stops. -/
def leftBy (p : Path) (c : CacheContent) (stop : SaveStop) (t : FileTree) : FileTree :=
  (((stoppedSteps p c.encode stop).forM id).run t).2

/-- A save leaves the tree behind the move. -/
theorem save_eq_leftBy (p : Path) (c : CacheContent) (t : FileTree) :
    (((file p).save c).run t).2 = leftBy p c .moving t := by
  rw [run_save_file]
  unfold leftBy stoppedSteps
  dsimp only
  rcases ((saveSteps p c.encode).forM id).run t with ⟨e | x, t'⟩ <;> rfl

/-- **The file that is written first stands beside** the stored one, under another name. -/
theorem beside_sidePath (h : p.fileName? = some name) : p.Beside (sidePath p) :=
  Path.beside_withExtension h (by decide) (by decide)

/-- The directory of a file that is there need not be created. -/
theorem run_makeParent (hname : p.fileName? = some name) {bytes : ByteArray}
    (hread : t.read p = .ok bytes) : (makeParent p).run t = (.ok (), t) := by
  obtain ⟨l, -, hlocate, -⟩ := FileTree.read_eq_ok_iff.mp hread
  unfold makeParent
  split
  · rename_i parent hparent
    exact (FileTree.run_makeDirs_of_locate hname hparent hlocate).1
  · rfl

/-- A save that stops while the directory is created has changed nothing. -/
theorem leftBy_making (hname : p.fileName? = some name) {bytes : ByteArray}
    (hread : t.read p = .ok bytes) (c : CacheContent) (n : Nat) :
    leftBy p c (.making n) t = t := by
  obtain ⟨l, -, hlocate, -⟩ := FileTree.read_eq_ok_iff.mp hread
  unfold leftBy stoppedSteps
  dsimp only
  split
  · rename_i parent hparent
    have hmake := (FileTree.run_makeDirs_of_locate hname hparent hlocate).2 n
    rw [run_forM_cons, run_bind, run_get]
    dsimp only
    rw [hmake]
    rfl
  · rfl

/-- A save that stops while the file beside is written has written part of it. -/
theorem leftBy_writing (hname : p.fileName? = some name) {bytes : ByteArray}
    (hread : t.read p = .ok bytes) (c : CacheContent) (n : Nat) :
    leftBy p c (.writing n) t =
      ((FileTree.write (sidePath p) (c.encode.extract 0 n)).run t).2 := by
  unfold leftBy stoppedSteps
  dsimp only
  rw [run_forM_cons, run_makeParent hname hread]
  dsimp only
  rw [run_forM_cons]
  rcases (FileTree.write (sidePath p) (c.encode.extract 0 n)).run t with ⟨e | x, t'⟩ <;> rfl

/-- **The steps of a save** where a file is stored: only the file beside is written and moved. -/
theorem run_saveSteps (hname : p.fileName? = some name) {bytes : ByteArray}
    (hread : t.read p = .ok bytes) (content : ByteArray) :
    ((saveSteps p content).forM id).run t =
      (do
        FileTree.write (sidePath p) content
        FileTree.rename (sidePath p) p).run t := by
  rw [saveSteps_eq, run_forM_cons, run_makeParent hname hread, run_bind]
  dsimp only
  rw [run_forM_cons]
  rcases (FileTree.write (sidePath p) content).run t with ⟨e | x, t'⟩
  · rfl
  · dsimp only
    rw [run_forM_cons]
    rcases (FileTree.rename (sidePath p) p).run t' with ⟨e | x, t''⟩ <;> rfl

/-- **A file that was left beside changes nothing**: the stored content is loaded as before, and
whatever is saved next is saved as if that file were not there. -/
theorem run_save_of_write (hname : p.fileName? = some name)
    (hload : (file p).load t = .ok (some c₀)) (content : ByteArray) :
    (file p).load ((FileTree.write (sidePath p) content).run t).2 = .ok (some c₀) ∧
      ∀ c, ((file p).save c).run ((FileTree.write (sidePath p) content).run t).2 =
        ((file p).save c).run t := by
  obtain ⟨bytes, hread, hdecode⟩ := load_file_eq_some_iff.mp hload
  have hread' := FileTree.read_write_beside (beside_sidePath hname) hread content
  refine ⟨load_file_eq_some_iff.mpr ⟨bytes, hread', hdecode⟩, fun c => ?_⟩
  have hsteps : ((saveSteps p c.encode).forM id).run
      ((FileTree.write (sidePath p) content).run t).2 = ((saveSteps p c.encode).forM id).run t := by
    rw [run_saveSteps hname hread', run_saveSteps hname hread, run_bind, run_bind,
      FileTree.run_write_write]
  rw [run_save_file, run_save_file, hsteps]

/-- **What a save leaves** where it stops: the tree that it found, but for the file beside, or the
new content in its place. -/
theorem load_leftBy (hname : p.fileName? = some name) (hroot : t.Rooted) (hc : c.Storable)
    (hload : (file p).load t = .ok (some c₀)) (stop : SaveStop) :
    (file p).load (leftBy p c stop t) = .ok (some c₀) ∨
      stop = .moving ∧ (file p).load (leftBy p c stop t) = .ok (some c) := by
  obtain ⟨bytes, hread, hdecode⟩ := load_file_eq_some_iff.mp hload
  cases stop with
  | making n => exact Or.inl (by rw [leftBy_making hname hread, hload])
  | writing n =>
    rw [leftBy_writing hname hread]
    exact Or.inl (run_save_of_write hname hload _).1
  | moving =>
    have hleft : leftBy p c .moving t = (((saveSteps p c.encode).forM id).run t).2 := rfl
    rw [hleft, run_saveSteps hname hread, run_bind]
    have hbefore := (run_save_of_write hname hload c.encode).1
    rcases hwrite : (FileTree.write (sidePath p) c.encode).run t with ⟨e | x, t₁⟩ <;>
      rw [hwrite] at hbefore
    · exact Or.inl hbefore
    · -- the file beside was written, and is moved unless that is refused
      dsimp only
      rcases FileTree.rename_cases (sidePath p) p t₁ with
        ⟨e, hmove⟩ | ⟨l, m, content, executable, -, -, -, hmove⟩
      · rw [hmove]
        exact Or.inl hbefore
      · rw [hmove]
        exact Or.inr ⟨rfl, load_of_moved hc hroot hwrite hmove⟩

theorem keepsRooted_stoppedSteps (p : Path) (bytes : ByteArray) (stop : SaveStop) :
    ∀ a ∈ stoppedSteps p bytes stop, a.KeepsRooted := by
  cases stop with
  | making n =>
    unfold stoppedSteps
    dsimp only
    split
    · rename_i parent hparent
      refine List.forall_mem_singleton.mpr fun t ht => ?_
      exact keepsRooted_makeDirsFrom [] (t.startOf parent) _ t ht
    · exact fun _ ha => absurd ha List.not_mem_nil
  | writing n =>
    exact List.forall_mem_cons.mpr ⟨keepsRooted_makeParent p,
      List.forall_mem_singleton.mpr (keepsRooted_write _ _)⟩
  | moving => exact keepsRooted_saveSteps p bytes

/-- A save leaves the tree rooted wherever it stops. -/
theorem rooted_leftBy (hroot : t.Rooted) (p : Path) (c : CacheContent) (stop : SaveStop) :
    (leftBy p c stop t).Rooted :=
  KeepsRooted.forM (keepsRooted_stoppedSteps p c.encode stop) t hroot

/-- **What a file gives after any number of saves**, each of which may have stopped anywhere: the
content that was stored before, or one of those whose save came to the move. -/
theorem load_foldl_leftBy (hname : p.fileName? = some name) {saves : List (CacheContent × SaveStop)}
    (hsaves : ∀ s ∈ saves, s.1.Storable) (hroot : t.Rooted)
    (hload : (file p).load t = .ok (some c₀)) :
    ∃ c, (file p).load (saves.foldl (fun t s => leftBy p s.1 s.2 t) t) = .ok (some c) ∧
      (c = c₀ ∨ (c, .moving) ∈ saves) := by
  induction saves generalizing t c₀ with
  | nil => exact ⟨c₀, hload, Or.inl rfl⟩
  | cons s saves ih =>
    obtain ⟨hs, hrest⟩ := List.forall_mem_cons.mp hsaves
    have hroot' := rooted_leftBy hroot p s.1 s.2
    rcases load_leftBy hname hroot hs hload s.2 with hbefore | ⟨hmoved, hafter⟩
    · obtain ⟨c, hc, hcases⟩ := ih hrest hroot' hbefore
      exact ⟨c, hc, hcases.imp id (List.mem_cons_of_mem _)⟩
    · obtain ⟨c, hc, hcases⟩ := ih hrest hroot' hafter
      refine ⟨c, hc, Or.inr ?_⟩
      rcases hcases with rfl | hmem
      · rw [← hmoved]
        exact List.mem_cons_self
      · exact List.mem_cons_of_mem _ hmem

/-- **A save that stops loses nothing.** Where a content is stored, a file that is loaded behind a
save of another one gives the old content or the new one, the new one only when the save came to the
move, wherever it stopped and whether it failed or was cut off; a save that answers success has
stored the new one. Up to the move nothing is left that a later save would find, and no file that
stands beside, whatever is in it, makes a difference to what is loaded or saved next. -/
theorem interrupted_save (hname : p.fileName? = some name) (hroot : t.Rooted)
    (hload : (file p).load t = .ok (some c₀)) :
    (∀ c stop, c.Storable →
      ((file p).load (leftBy p c stop t) = .ok (some c₀) ∨
        stop = .moving ∧ (file p).load (leftBy p c stop t) = .ok (some c)) ∧
      (leftBy p c stop t).Rooted ∧
      (stop ≠ .moving → ∀ c',
        ((file p).save c').run (leftBy p c stop t) = ((file p).save c').run t)) ∧
    (∀ c, (((file p).save c).run t).2 = leftBy p c .moving t ∧
      (c.Storable → (((file p).save c).run t).1 = .ok (file p) →
        (file p).load (leftBy p c .moving t) = .ok (some c))) ∧
    ∀ content, (file p).load ((FileTree.write (sidePath p) content).run t).2 = .ok (some c₀) ∧
      ∀ c, ((file p).save c).run ((FileTree.write (sidePath p) content).run t).2 =
        ((file p).save c).run t := by
  refine ⟨fun c stop hc => ⟨load_leftBy hname hroot hc hload stop, rooted_leftBy hroot p c stop,
    fun hstop c' => ?_⟩, fun c => ⟨save_eq_leftBy p c t, fun hc hreply => ?_⟩,
    run_save_of_write hname hload⟩
  · obtain ⟨bytes, hread, -⟩ := load_file_eq_some_iff.mp hload
    cases stop with
    | making n => rw [leftBy_making hname hread]
    | writing n =>
      rw [leftBy_writing hname hread]
      exact (run_save_of_write hname hload _).2 c'
    | moving => exact absurd rfl hstop
  · -- a save that succeeds has moved the new content
    rw [← save_eq_leftBy]
    exact (save_file_eq_ok hc hroot (Prod.ext hreply rfl)).2

/-- A tree with an empty cache in a file. -/
def emptyStored : FileTree := (((file ⟨"/c.json"⟩).save {}).run ⟨[], []⟩).2

/-- A content with one entry. -/
def oneEntry : CacheContent :=
  ({} : CacheContent).record "ghdl" ⟨"/p/top.vhd"⟩ "00" .passed ⟨"2024-05-01T12:00:00Z"⟩

/-- A save that is cut off behind the third byte leaves the content that was saved before. -/
theorem interrupted_save_oneEntry :
    (file ⟨"/c.json"⟩).load emptyStored = .ok (some {}) ∧
      (file ⟨"/c.json"⟩).load (leftBy ⟨"/c.json"⟩ oneEntry (.writing 3) emptyStored) =
        .ok (some {}) := by
  have hempty : (⟨[], []⟩ : FileTree).Rooted := FileTree.rooted_of_entries (by simp)
  have hsave : ((file ⟨"/c.json"⟩).save {}).run ⟨[], []⟩ =
      (.ok (file ⟨"/c.json"⟩), emptyStored) := by
    have hreply : (((file ⟨"/c.json"⟩).save {}).run ⟨[], []⟩).1 = .ok (file ⟨"/c.json"⟩) := by
      decide +kernel
    rw [← hreply, emptyStored]
    exact Prod.mk.eta.symm
  obtain ⟨-, hload⟩ := save_file_eq_ok CacheContent.storable_empty hempty hsave
  have hone : oneEntry.Storable := CacheContent.storable_empty.record (by
    unfold Timestamp.Legible
    decide +kernel)
  have hname : Path.fileName? ⟨"/c.json"⟩ = some "c.json" := by decide +kernel
  have hroot := (keepsRooted_save (file ⟨"/c.json"⟩) {}).rooted hsave hempty
  obtain ⟨hstops, -, -⟩ := interrupted_save hname hroot hload
  obtain ⟨hbefore | ⟨hmoving, -⟩, -, -⟩ := hstops oneEntry (.writing 3) hone
  · exact ⟨hload, hbefore⟩
  · cases hmoving

end CacheStore

end RtlFlow
