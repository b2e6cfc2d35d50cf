import RtlFlow.Cache.Filter
import RtlFlow.Cache.Store
import RtlFlow.Proofs.Cache.Document
import RtlFlow.Proofs.Host.Files

/-! # What a store keeps

Every call on a cache leaves its store so that opening the store gives the cache again, entries and
counter alike, as long as the store could be written (`BuildCache.Used.kept`). Memory holds what was
put there. A file holds the bytes of the content, since what was written beside it is read again
where it was moved to; and where everything was forgotten there is no file, which is opened as an
empty cache. -/

namespace RtlFlow

open FileAction

namespace CacheStore

variable {s s' : CacheStore} {t t' : FileTree} {p : Path} {c : CacheContent}

/-- **The content with which a store is opened**: the one that it holds, or an empty one when it
holds none or one that cannot be trusted. A store that cannot be read is not opened. -/
def given? (s : CacheStore) (t : FileTree) : Option CacheContent :=
  match s.load t with
  | .ok stored => some (stored.getD {})
  | .error (.corrupt ..) => some {}
  | .error (.io ..) => none

theorem given?_of_load {stored : Option CacheContent} (h : s.load t = .ok stored) :
    s.given? t = some (stored.getD {}) := by
  unfold given?
  rw [h]

theorem load_of_not_present (h : t.isPresent p = false) : (file p).load t = .ok none := by
  simp [load, h]

/-- A file that can be read is decoded. -/
theorem load_eq_of_read {bytes : ByteArray} (h : t.read p = .ok bytes) :
    (file p).load t = match CacheContent.decode bytes.toList with
      | .ok c => .ok (some c)
      | .error why => .error (.corrupt p why) := by
  cases hdecode : CacheContent.decode bytes.toList with
  | ok c => simp [load, FileTree.isPresent_of_read h, h, hdecode]
  | error why => simp [load, FileTree.isPresent_of_read h, h, hdecode]

/-- **A content is loaded from a file** whose bytes are decoded to it. -/
theorem load_file_eq_some_iff : (file p).load t = .ok (some c) ↔
    ∃ bytes, t.read p = .ok bytes ∧ CacheContent.decode bytes.toList = .ok c := by
  constructor
  · intro h
    cases hread : t.read p with
    | error e =>
      unfold load at h
      dsimp only at h
      rw [hread] at h
      split at h <;> cases h
    | ok bytes =>
      refine ⟨bytes, rfl, ?_⟩
      rw [load_eq_of_read hread] at h
      split at h
      · rename_i hdecode
        rwa [← Option.some.inj (Except.ok.inj h)]
      · cases h
  · rintro ⟨bytes, hread, hdecode⟩
    rw [load_eq_of_read hread, hdecode]

/-- A file that holds the bytes of a content is loaded as that content. -/
theorem load_of_read (hc : c.Storable) (h : t.read p = .ok c.encode) :
    (file p).load t = .ok (some c) :=
  load_file_eq_some_iff.mpr ⟨c.encode, h, hc.decode_encode⟩

/-- A content that was loaded from a file can be stored. -/
theorem storable_of_load (h : (file p).load t = .ok (some c)) : c.Storable := by
  obtain ⟨bytes, -, hdecode⟩ := load_file_eq_some_iff.mp h
  exact CacheContent.storable_of_decode hdecode

/-- The content with which a file is opened can be stored. -/
theorem storable_of_given? (h : (file p).given? t = some c) : c.Storable := by
  unfold given? at h
  split at h
  · rename_i stored hload
    obtain rfl := Option.some.inj h
    cases stored with
    | none => exact CacheContent.storable_empty
    | some c => exact storable_of_load hload
  · obtain rfl := Option.some.inj h
    exact CacheContent.storable_empty
  · cases h

/-! ## Saving and clearing -/

/-- The step that creates the directory of a file. -/
def makeParent (p : Path) : FileAction Fault Unit :=
  match p.parent? with
  | some parent => FileTree.makeDirs parent
  | none => pure ()

theorem saveSteps_eq (p : Path) (bytes : ByteArray) :
    saveSteps p bytes =
      [makeParent p, FileTree.write (sidePath p) bytes, FileTree.rename (sidePath p) p] := rfl

theorem keepsRooted_makeParent (p : Path) : (makeParent p).KeepsRooted := by
  unfold makeParent
  split
  · exact keepsRooted_makeDirs _
  · exact .pure _

theorem keepsRooted_saveSteps (p : Path) (bytes : ByteArray) :
    ∀ a ∈ saveSteps p bytes, a.KeepsRooted := by
  rw [saveSteps_eq]
  simp only [List.forall_mem_cons]
  exact ⟨keepsRooted_makeParent p, keepsRooted_write _ _, keepsRooted_rename _ _,
    fun _ ha => absurd ha List.not_mem_nil⟩

theorem keepsRooted_save (s : CacheStore) (c : CacheContent) : (s.save c).KeepsRooted := by
  cases s with
  | memory stored => exact .pure _
  | file p => exact .bind (.adapt (.forM (keepsRooted_saveSteps p c.encode))) fun _ => .pure _

/-- Saving leaves a file to a file only. -/
theorem eq_file_of_save (h : (s.save c).run t = (.ok (file p), t')) : s = file p := by
  cases s with
  | memory stored => cases h
  | file q =>
    obtain ⟨_, t₁, -, hreturn⟩ := exists_of_bind_eq_ok h
    cases hreturn
    rfl

/-- **A save in a file** is its steps. -/
theorem run_save_file (p : Path) (c : CacheContent) (t : FileTree) :
    ((file p).save c).run t =
      match ((saveSteps p c.encode).forM id).run t with
      | (.ok _, t') => (.ok (file p), t')
      | (.error e, t') => (.error (.io p e.message), t') := by
  unfold save
  dsimp only
  rw [run_bind, run_adapt]
  rcases ((saveSteps p c.encode).forM id).run t with ⟨e | x, t'⟩ <;> rfl

/-- **A content that was written beside a file and moved there** is loaded from it. -/
theorem load_of_moved (hc : c.Storable) (hroot : t.Rooted) {t₁ t₂ : FileTree}
    (hwrite : (FileTree.write (sidePath p) c.encode).run t = (.ok (), t₁))
    (hmove : (FileTree.rename (sidePath p) p).run t₁ = (.ok (), t₂)) :
    (file p).load t₂ = .ok (some c) := by
  have hroot₁ := (keepsRooted_write _ _).rooted hwrite hroot
  exact load_of_read hc (FileTree.read_of_rename hroot₁ hmove (FileTree.read_of_write hwrite))

/-- **A content that was saved in a file is loaded again.** -/
theorem save_file_eq_ok (hc : c.Storable) (hroot : t.Rooted)
    (h : ((file p).save c).run t = (.ok s', t')) :
    s' = file p ∧ (file p).load t' = .ok (some c) := by
  rw [run_save_file] at h
  rcases hsteps : ((saveSteps p c.encode).forM id).run t with ⟨e | x, t₁⟩ <;> rw [hsteps] at h
  · cases h
  · cases h
    obtain ⟨_, t₁, hmade, hrest⟩ := exists_of_bind_eq_ok hsteps
    obtain ⟨_, t₂, hwritten, hrest⟩ := exists_of_bind_eq_ok hrest
    obtain ⟨_, t₃, hmoved, hrest⟩ := exists_of_bind_eq_ok hrest
    cases hrest
    exact ⟨rfl, load_of_moved hc ((keepsRooted_makeParent p).rooted hmade hroot) hwritten hmoved⟩

/-- **Clearing a file** fails and changes nothing, or there is no file afterwards. -/
theorem clear_file_cases (p : Path) (t : FileTree) :
    (∃ e, (file p).clear.run t = (.error e, t)) ∨
      ∃ t', (file p).clear.run t = (.ok (file p), t') ∧ t'.isPresent p = false ∧
        (t.Rooted → t'.Rooted) := by
  unfold clear
  simp only [run_bind, run_get]
  rcases FileTree.removeFile_cases p t with
    ⟨e, hrun, habsent⟩ | ⟨l, content, executable, -, -, hrun⟩
  · rw [hrun]
    by_cases he : e = .notFound
    · subst he
      exact Or.inr ⟨t, rfl, habsent rfl, id⟩
    · refine Or.inl ⟨.io p e.message, ?_⟩
      cases e <;> first | rfl | exact absurd rfl he
  · rw [hrun]
    exact Or.inr ⟨t.cut l, rfl, FileTree.isPresent_of_removeFile hrun,
      (keepsRooted_removeFile p).rooted hrun⟩

/-- Only a file can hold a content that cannot be trusted, or fail to be read. -/
theorem exists_file_of_load_error {e : CacheError} (h : s.load t = .error e) : ∃ p, s = file p := by
  cases s with
  | memory stored => cases h
  | file p => exact ⟨p, rfl⟩

end CacheStore

namespace BuildCache

open CacheStore

variable {b b' : BuildCache} {t t' : FileTree} {s : CacheStore}

/-! ## Opening -/

/-- **A cache that is opened again as it is**: opening its store succeeds and gives the same store
and the same content. -/
def Kept (b : BuildCache) (t : FileTree) : Prop :=
  ∃ t', (openStore b.store).run t = (.ok b, t')

/-- **Opening a store** fails and changes nothing, or it gives what the store gives and leaves a
store that still gives it. -/
theorem openStore_cases (s : CacheStore) (t : FileTree) :
    (s.given? t = none ∧ ∃ e, (openStore s).run t = (.error e, t)) ∨
      ∃ c t', s.given? t = some c ∧ (openStore s).run t = (.ok ⟨s, c⟩, t') ∧
        s.given? t' = some c ∧ (t.Rooted → t'.Rooted) := by
  unfold openStore
  simp only [run_bind, run_get]
  cases hload : s.load t with
  | ok stored =>
    refine Or.inr ⟨stored.getD {}, t, given?_of_load hload, ?_, given?_of_load hload, id⟩
    cases stored <;> rfl
  | error e =>
    obtain ⟨p, rfl⟩ := exists_file_of_load_error hload
    cases e with
    | io path message => exact Or.inl ⟨by rw [given?, hload], _, rfl⟩
    | corrupt path why =>
      have hgiven : (file p).given? t = some {} := by rw [given?, hload]
      refine Or.inr ⟨{}, ((file p).clear.run t).2, hgiven, ?_⟩
      simp only [run_bind, run_get]
      -- the file is gone afterwards, or it is still the one that cannot be trusted
      rcases clear_file_cases p t with ⟨e, hrun⟩ | ⟨t₁, hrun, habsent, hroot⟩ <;> rw [hrun]
      · exact ⟨rfl, hgiven, id⟩
      · exact ⟨rfl, given?_of_load (load_of_not_present habsent), hroot⟩

/-- A cache whose content is the one that its store gives is opened again as it is. -/
theorem kept_of_given? (h : b.store.given? t = some b.content) : b.Kept t := by
  rcases openStore_cases b.store t with ⟨hnone, -⟩ | ⟨c, t', hgiven, hrun, -⟩
  · rw [hnone] at h
    cases h
  · obtain rfl := Option.some.inj (hgiven.symm.trans h)
    exact ⟨t', hrun⟩

/-! ## Calls -/

/-- **A cache that can be stored**: the entries of the tree stand in directories, and what is in a
file can be read again. -/
structure CanStore (b : BuildCache) (t : FileTree) : Prop where
  /-- The tree is rooted. -/
  rooted : t.Rooted
  /-- What is in a file can be stored. -/
  storable : ∀ p, b.store = .file p → b.content.Storable

/-- **A cache whose store holds its content.** -/
structure Sound (b : BuildCache) (t : FileTree) : Prop extends CanStore b t where
  /-- The store gives the content. -/
  given : b.store.given? t = some b.content

/-- A cache that was just opened is sound. -/
theorem sound_of_openStore (hroot : t.Rooted) (h : (openStore s).run t = (.ok b, t')) :
    b.Sound t' := by
  rcases openStore_cases s t with ⟨-, e, hrun⟩ | ⟨c, t₁, hgiven, hrun, hgiven', hroot'⟩ <;>
    rw [hrun] at h
  · cases h
  · cases h
    refine ⟨⟨hroot' hroot, fun p hp => ?_⟩, hgiven'⟩
    dsimp only at hp
    subst hp
    exact storable_of_given? hgiven

/-- A cache with a new content can be stored, whether that content could be stored or not. -/
theorem CanStore.update (h : b.CanStore t) {c : CacheContent}
    (hc : ∀ p, b.store = .file p → c.Storable) :
    (b.update c t).1.1.CanStore (b.update c t).2 := by
  have hroot := keepsRooted_save b.store c t h.rooted
  unfold BuildCache.update
  rcases hrun : (b.store.save c).run t with ⟨e | stored, t'⟩ <;> rw [hrun] at hroot
  · exact ⟨hroot, hc⟩
  · refine ⟨hroot, fun p hp => ?_⟩
    dsimp only at hp
    subst hp
    exact hc p (eq_file_of_save hrun)

/-- A cache with a compile remembered can be stored. -/
theorem CanStore.record (h : b.CanStore t) {backend : String} {p : Path} {fingerprint : String}
    {outcome : BuildOutcome} {now : Timestamp} (hnow : now.Legible) :
    (b.record backend p fingerprint outcome now t).1.1.CanStore
      (b.record backend p fingerprint outcome now t).2 :=
  h.update fun q hq => (h.storable q hq).record hnow

/-- A cache without a file can be stored. -/
theorem CanStore.forget (h : b.CanStore t) {backend : String} {p : Path} :
    (b.forget backend p t).1.1.CanStore (b.forget backend p t).2 := by
  unfold BuildCache.forget
  cases hforget : b.content.forget? backend p with
  | none => exact h
  | some c => exact h.update fun q hq => (h.storable q hq).forget? hforget

/-- **A cache that was given a content and stored is sound**, whatever its store gave before. -/
theorem CanStore.sound_of_update (hb : b.CanStore t) {c : CacheContent}
    (hc : ∀ p, b.store = .file p → c.Storable) (h : b.update c t = ((b', none), t')) :
    b'.Sound t' := by
  have hcan := hb.update hc
  rw [h] at hcan
  refine ⟨hcan, ?_⟩
  unfold BuildCache.update at h
  rcases hrun : (b.store.save c).run t with ⟨e | stored, t₁⟩ <;> rw [hrun] at h
  · cases h
  · cases h
    cases hstore : b.store with
    | memory before =>
      rw [hstore] at hrun
      cases hrun
      rfl
    | file p =>
      rw [hstore] at hrun
      obtain ⟨rfl, hload⟩ := save_file_eq_ok (hc p hstore) hb.rooted hrun
      exact given?_of_load hload

/-- A cache that has remembered a compile and was stored is sound, whatever its store gave
before. -/
theorem CanStore.sound_of_record (hb : b.CanStore t) {backend : String} {p : Path}
    {fingerprint : String} {outcome : BuildOutcome} {now : Timestamp} (hnow : now.Legible)
    (h : b.record backend p fingerprint outcome now t = ((b', none), t')) : b'.Sound t' :=
  hb.sound_of_update (fun q hq => (hb.storable q hq).record hnow) h

/-- A cache that was cleared is sound. -/
theorem sound_of_clear (hroot : t.Rooted) (h : b.clear t = ((b', none), t')) : b'.Sound t' := by
  unfold clear at h
  cases hstore : b.store with
  | memory before =>
    rw [hstore] at h
    cases h
    exact ⟨⟨hroot, fun _ h => by cases h⟩, rfl⟩
  | file p =>
    rw [hstore] at h
    rcases clear_file_cases p t with ⟨e, hrun⟩ | ⟨t₁, hrun, habsent, hroot'⟩ <;> rw [hrun] at h
    · cases h
    · cases h
      exact ⟨⟨hroot' hroot, fun _ _ => CacheContent.storable_empty⟩,
        given?_of_load (load_of_not_present habsent)⟩

/-- **A cache in use**, with the tree at hand: it was opened on a store, and every call on it has
succeeded. Between the calls other programs may change the tree, as long as the store holds what it
held. -/
inductive Used : BuildCache → FileTree → Prop
  /-- It was opened. -/
  | opened {s : CacheStore} {t : FileTree} {b : BuildCache} {t' : FileTree} (hroot : t.Rooted)
      (h : (openStore s).run t = (.ok b, t')) : Used b t'
  /-- A compile was remembered. -/
  | record {b : BuildCache} {t : FileTree} (hused : Used b t) (backend : String) (p : Path)
      (fingerprint : String) (outcome : BuildOutcome) {now : Timestamp} (hnow : now.Legible)
      {b' : BuildCache} {t' : FileTree}
      (h : b.record backend p fingerprint outcome now t = ((b', none), t')) : Used b' t'
  /-- A file was forgotten. -/
  | forget {b : BuildCache} {t : FileTree} (hused : Used b t) (backend : String) (p : Path)
      {b' : BuildCache} {t' : FileTree} (h : b.forget backend p t = ((b', none), t')) : Used b' t'
  /-- Everything was forgotten. -/
  | clear {b : BuildCache} {t : FileTree} (hused : Used b t) {b' : BuildCache} {t' : FileTree}
      (h : b.clear t = ((b', none), t')) : Used b' t'
  /-- Other programs have changed the tree. -/
  | elsewhere {b : BuildCache} {t : FileTree} (hused : Used b t) {t' : FileTree}
      (hroot : t'.Rooted) (h : b.store.load t' = b.store.load t) : Used b t'

/-- **A cache in use is sound.** -/
theorem Used.sound (h : b.Used t) : b.Sound t := by
  induction h with
  | opened hroot h => exact sound_of_openStore hroot h
  | record hused backend p fingerprint outcome hnow h ih => exact ih.sound_of_record hnow h
  | @forget b t hused backend p b' t' h ih =>
    unfold BuildCache.forget at h
    cases hforget : b.content.forget? backend p with
    | none =>
      -- there is nothing to forget, so nothing is stored
      rw [hforget] at h
      cases h
      exact ih
    | some c =>
      rw [hforget] at h
      exact ih.sound_of_update (fun q hq => (ih.storable q hq).forget? hforget) h
  | clear hused h ih => exact sound_of_clear ih.rooted h
  | elsewhere hused hroot h ih =>
    refine ⟨⟨hroot, ih.storable⟩, ?_⟩
    rw [← ih.given]
    unfold given?
    rw [h]

/-- A sound cache is opened again as it is. -/
theorem Sound.kept (h : b.Sound t) : b.Kept t := kept_of_given? h.given

/-- **A cache in use is opened again as it is.** -/
theorem Used.kept (h : b.Used t) : b.Kept t := h.sound.kept

end BuildCache

end RtlFlow
