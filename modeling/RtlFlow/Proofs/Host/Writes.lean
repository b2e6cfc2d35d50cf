import RtlFlow.Proofs.Host.Ways
import Mathlib.Data.List.Nodup
import Mathlib.Data.Set.Insert
import Mathlib.Logic.Relation

/-! # What writing may change

Creating directories, writing files and copying them put entries into directories, one after the
other, each under a name and none in the place of a directory (`FileTree.Writes`). So a tree as a
file system keeps it (`FileTree.Proper`) stays one, all directories stay, and outside the places
that the paths of an operation need nothing changes, whether the operation succeeds or not. -/

namespace RtlFlow

namespace FileTree

open RtlFlow.Path (IsName)

variable {t t' : FileTree} {S S' : Set Location} {d dir l m : Location} {e : Entry} {p q : Path}
  {here start : Location} {names : List String} {s : String}

/-! ## Trees as a file system keeps them -/

/-- **A tree as a file system keeps it.** -/
structure Proper (t : FileTree) : Prop where
  /-- Every entry stands in a directory. -/
  rooted : t.Rooted
  /-- No location has two entries. -/
  nodup : (t.entries.map (·.1)).Nodup
  /-- On the way down to an entry stand names. -/
  names : ∀ k ∈ t.entries.map (·.1), ∀ s ∈ k, IsName s

theorem map_fst_putIn (l : Location) (e : Entry) (entries : List (Location × Entry)) :
    (putIn l e entries).map (·.1) =
      if l ∈ entries.map (·.1) then entries.map (·.1) else entries.map (·.1) ++ [l] := by
  induction entries with
  | nil => simp [putIn]
  | cons x entries ih =>
    obtain ⟨k, old⟩ := x
    unfold putIn
    by_cases hk : k = l
    · simp [hk]
    · rw [if_neg (by simpa using hk), List.map_cons, ih]
      by_cases hmem : l ∈ entries.map (·.1) <;> simp [hmem, Ne.symm hk]

/-- Where something stands there is an entry, unless it is the root. -/
theorem mem_keys_iff (hl : l ≠ []) : l ∈ t.entries.map (·.1) ↔ t.entryAt? l ≠ none := by
  rw [entryAt?_of_ne_nil _ hl, ne_eq, Option.map_eq_none_iff, List.find?_eq_none, List.mem_map]
  simp only [beq_iff_eq, not_forall, not_not, exists_prop]

/-- On the way down to what stands in a tree are names. -/
theorem Proper.isName (ht : t.Proper) (hl : t.entryAt? l ≠ none) (hs : s ∈ l) : IsName s :=
  ht.names l ((mem_keys_iff (List.ne_nil_of_mem hs)).mpr hl) s hs

/-! ## One entry after the other -/

/-- **An entry is put into a directory**, under a name and not in the place of a directory. -/
inductive Puts (S : Set Location) (t : FileTree) : FileTree → Prop
  | put {dir : Location} {s : String} {e : Entry} (hdir : t.entryAt? dir = some .directory)
      (hname : IsName s) (hfree : t.entryAt? (dir ++ [s]) ≠ some .directory)
      (hplace : dir ++ [s] ∈ S) : Puts S t (t.put (dir ++ [s]) e)

/-- **Entries are put one after the other**, all of them in places of a set. -/
def Writes (S : Set Location) : FileTree → FileTree → Prop := Relation.ReflTransGen (Puts S)

theorem Puts.entryAt? (h : Puts S t t') {k : Location} (hk : k ∉ S) :
    t'.entryAt? k = t.entryAt? k := by
  obtain ⟨-, -, -, hplace⟩ := h
  rw [entryAt?_put (by simp), if_neg]
  rintro rfl
  exact hk hplace

theorem Puts.sameWays (h : Puts S t t') : SameWays t t' := by
  obtain ⟨-, -, hfree, -⟩ := h
  exact ⟨rfl, fun k hk => directory_put hfree (fun _ h => h) _ hk⟩

/-- **A tree stays as a file system keeps it** when an entry is put into a directory. -/
theorem Puts.proper (h : Puts S t t') (ht : t.Proper) : t'.Proper := by
  obtain @⟨dir, s, e, hdir, hname, hfree, -⟩ := h
  have hkeys := map_fst_putIn (dir ++ [s]) e t.entries
  refine ⟨ht.rooted.put (by simp) (by simpa using hdir) (Or.inr hfree), ?_, ?_⟩
  · show ((putIn (dir ++ [s]) e t.entries).map (·.1)).Nodup
    rw [hkeys]
    split
    · exact ht.nodup
    · rename_i hmem
      exact List.nodup_append.mpr ⟨ht.nodup, by simp, by
        rintro k hk _ hk' rfl
        exact hmem (List.mem_singleton.mp hk' ▸ hk)⟩
  · show ∀ k ∈ (putIn (dir ++ [s]) e t.entries).map (·.1), _
    rw [hkeys]
    split
    · exact ht.names
    · refine List.forall_mem_append.mpr ⟨ht.names, List.forall_mem_singleton.mpr ?_⟩
      exact List.forall_mem_append.mpr
        ⟨fun n hn => ht.isName (by simp [hdir]) hn, List.forall_mem_singleton.mpr hname⟩

theorem Puts.mono (h : Puts S t t') (hS : S ⊆ S') : Puts S' t t' := by
  obtain ⟨hdir, hname, hfree, hplace⟩ := h
  exact .put hdir hname hfree (hS hplace)

namespace Writes

theorem refl (S : Set Location) (t : FileTree) : Writes S t t := Relation.ReflTransGen.refl

theorem trans {t'' : FileTree} (h : Writes S t t') (h' : Writes S t' t'') : Writes S t t'' :=
  Relation.ReflTransGen.trans h h'

theorem mono (h : Writes S t t') (hS : S ⊆ S') : Writes S' t t' :=
  Relation.ReflTransGen.mono (fun _ _ hput => hput.mono hS) _ _ h

/-- What a run may write, up to the tree that it leaves. -/
theorem of_run {ε α : Type} {a : FileAction ε α} {reply : Except ε α}
    (hw : Writes S t (a.run t).2) (hrun : a.run t = (reply, t')) : Writes S t t' := by
  rwa [hrun] at hw

/-- **Outside the places that are written nothing changes.** -/
theorem entryAt? (h : Writes S t t') {k : Location} (hk : k ∉ S) :
    t'.entryAt? k = t.entryAt? k := by
  induction h with
  | refl => rfl
  | tail _ hput ih => exact (hput.entryAt? hk).trans ih

/-- **All directories stay.** -/
theorem sameWays (h : Writes S t t') : SameWays t t' := by
  induction h with
  | refl => exact ⟨rfl, fun _ hk => hk⟩
  | tail _ hput ih => exact ih.trans hput.sameWays

theorem proper (h : Writes S t t') (ht : t.Proper) : t'.Proper := by
  induction h with
  | refl => exact ht
  | tail _ hput ih => exact hput.proper ih

/-- Where nothing stood before, what is written is added. -/
theorem within (h : Writes S t t') (hS : ∀ k ∈ S, t.entryAt? k = none) : Within t t' := by
  refine ⟨h.sameWays.workingDir, fun k e hk => ?_⟩
  rwa [h.entryAt? fun hmem => by simp [hS k hmem] at hk]

/-- A path on whose way nothing is written leads to the same place. -/
theorem locate (h : Writes S t t') (hp : ∀ k ∈ t.ways p, k ∉ S) : t'.locate p = t.locate p :=
  locate_of_ways h.sameWays.workingDir fun k hk => h.entryAt? (hp k hk)

/-- What a path leads to, on whose way nothing is written, is there as before. -/
theorem get? (h : Writes S t t') (hp : ∀ k ∈ t.ways p, k ∉ S) : t'.get? p = t.get? p := by
  unfold FileTree.get?
  rw [h.locate hp]
  cases hlocate : t.locate p with
  | error e => rfl
  | ok l => exact h.entryAt? (hp l (placeOf_of_locate hlocate ▸ placeOf_mem_ways t p))

/-- **A file is read as before** when something is written elsewhere. -/
theorem read {content : ByteArray} (h : Writes S t t') (hread : t.read p = .ok content)
    (hp : t.placeOf p ∉ S) : t'.read p = .ok content := by
  obtain ⟨l, executable, hlocate, hentry⟩ := read_eq_ok_iff.mp hread
  obtain rfl := placeOf_of_locate hlocate
  have hkept := h.entryAt? hp
  exact read_eq_ok_iff.mpr ⟨_, executable, h.sameWays.locate_kept hlocate (Or.inl hkept),
    hkept.trans hentry⟩

end Writes

/-! ## Operations on one path -/

/-- **A path that needs nothing outside a set**: everything else that it passes is a directory. -/
def Needs (t : FileTree) (p : Path) (S : Set Location) : Prop :=
  ∀ k ∈ t.ways p, k ∈ S ∨ t.entryAt? k = some .directory

theorem Needs.of_sameWays (h : t.Needs p S) (hways : SameWays t t') : t'.Needs p S := by
  unfold Needs
  rw [ways_of_workingDir hways.workingDir]
  exact fun k hk => (h k hk).imp_right (hways.directories k)

theorem Points.needs (h : t.Points p d) : t.Needs p {d} := h.passes

/-- An entry is put where names lead, if no directory stands there. -/
theorem Proper.writes_follow (ht : t.Proper) (hnames : names ≠ [])
    (hsegments : ∀ s ∈ names, s ≠ "" ∧ '/' ∉ s.toList) (h : t.follow here names = .ok l)
    (hl : t.entryAt? l ≠ some .directory) (hS : l ∈ S) (e : Entry) : Writes S t (t.put l e) := by
  obtain ⟨dir, s, rfl, hdir, hs, hpoint, hup⟩ := ht.rooted.exists_name_of_follow hnames h hl
  exact .single (.put hdir ⟨(hsegments s hs).1, hpoint, hup, (hsegments s hs).2⟩ hl hS)

/-- An entry is put where a path leads, if no directory stands there. -/
theorem Proper.writes_locate (ht : t.Proper) (h : t.locate p = .ok l)
    (hl : t.entryAt? l ≠ some .directory) (hp : t.Needs p S) (e : Entry) :
    Writes S t (t.put l e) := by
  obtain ⟨⟨-, hempty, -⟩, hfollow, -⟩ := locate_eq_ok_iff.mp h
  have hS : l ∈ S := (hp l (placeOf_of_locate h ▸ placeOf_mem_ways t p)).resolve_right hl
  refine ht.writes_follow ?_ (fun s => Path.mem_segments) hfollow hl hS e
  intro hsegments
  rw [hsegments, startOf_eq_nil hempty hsegments] at hfollow
  obtain rfl := Except.ok.inj hfollow
  exact hl rfl

end FileTree

namespace FileAction

open FileTree

variable {t t' : FileTree} {S : Set Location} {d l start : Location} {p q source target : Path}
  {ε ε' α β : Type}

theorem run_adapt_eq_ok_iff {f : ε → ε'} {a : FileAction ε α} {x : α} :
    (ExceptT.adapt f a).run t = (.ok x, t') ↔ a.run t = (.ok x, t') := by
  rw [run_adapt]
  rcases a.run t with ⟨e | y, t₁⟩
  · constructor <;> rintro ⟨⟩
  · constructor <;>
    · rintro ⟨⟩
      rfl

/-- With another error an operation writes the same. -/
theorem writes_adapt {f : ε → ε'} {a : FileAction ε α} (h : Writes S t (a.run t).2) :
    Writes S t ((ExceptT.adapt f a).run t).2 := h

/-- The first of two operations may write, and then the second, if the first succeeds. -/
theorem writes_bind {a : FileAction ε α} {f : α → FileAction ε β} (ha : Writes S t (a.run t).2)
    (hf : ∀ x t₁, a.run t = (.ok x, t₁) → Writes S t₁ ((f x).run t₁).2) :
    Writes S t ((a >>= f).run t).2 := by
  rw [run_bind]
  rcases hrun : a.run t with ⟨e | x, t₁⟩ <;> rw [hrun] at ha
  · exact ha
  · exact ha.trans (hf x t₁ hrun)

/-- What is made of a result is not written. -/
theorem writes_bind_pure {a : FileAction ε α} (ha : Writes S t (a.run t).2) (f : α → β) :
    Writes S t ((a >>= fun x => pure (f x)).run t).2 :=
  writes_bind ha fun _ t₁ _ => .refl S t₁

theorem writes_makeDirsFrom {here names : List String} (ht : t.Proper)
    (hsegments : ∀ s ∈ here ++ names, s ≠ "" ∧ '/' ∉ s.toList)
    (hS : ∀ k ∈ (here ++ names).scanl stepTo start, k ∈ S ∨ t.entryAt? k = some .directory) :
    Writes S t ((makeDirsFrom here start names).run t).2 := by
  -- the names go over one by one to those behind which the directories are there
  induction names generalizing here t with
  | nil => exact .refl S t
  | cons s names ih =>
    have hshift : here ++ s :: names = (here ++ [s]) ++ names := by simp
    rw [hshift] at hsegments hS
    rw [run_makeDirsFrom_cons]
    cases hfollow : t.follow start (here ++ [s]) with
    | error e => exact .refl S t
    | ok l =>
      dsimp only
      rcases hentry : t.entryAt? l with - | (⟨content, executable⟩ | -)
      · -- the new directory stands on the way
        have hl : l ∈ (here ++ [s] ++ names).scanl stepTo start :=
          scanl_subset_append _ _ _ (place_of_follow hfollow ▸ foldl_mem_scanl _ _)
        have hput : Writes S t (t.put l .directory) :=
          ht.writes_follow (by simp) (fun n hn => hsegments n (List.mem_append_left _ hn)) hfollow
            (by simp [hentry]) ((hS l hl).resolve_right (by simp [hentry])) _
        exact hput.trans (ih (hput.proper ht) hsegments fun k hk =>
          (hS k hk).imp_right (hput.sameWays.directories k))
      · exact .refl S t
      · exact ih ht hsegments hS

/-- **Creating a directory and the parents that it lacks** writes on its way only. -/
theorem writes_makeDirs (ht : t.Proper) (hp : t.Needs p S) :
    Writes S t ((makeDirs p).run t).2 := by
  rcases run_makeDirs_cases p t with ⟨reply, hrun⟩ | hrun <;> rw [hrun]
  · exact .refl S t
  · exact writes_makeDirsFrom ht (fun s hs => Path.mem_segments hs) hp

theorem writes_ensureDir (ht : t.Proper) (hp : t.Needs p S) :
    Writes S t ((Host.ensureDir p).run t).2 :=
  writes_makeDirs ht hp

/-- The way of the directory of a path is the first part of its own. -/
theorem needs_parent {name : String} (hname : p.fileName? = some name) (hq : p.parent? = some q)
    (hp : t.Needs p S) : t.Needs q S := by
  obtain ⟨⟨more, -, hsegments⟩, habsolute, -⟩ := Path.parent?_spec hname hq
  have hstart : t.startOf q = t.startOf p := by simp [startOf, habsolute]
  intro k hk
  refine hp k ?_
  rw [ways, hsegments, ← hstart]
  exact scanl_subset_append _ _ _ hk

theorem writes_ensureParent (ht : t.Proper) (hname : p.fileName? ≠ none) (hp : t.Needs p S) :
    Writes S t ((Host.ensureParent p).run t).2 := by
  obtain ⟨name, hname⟩ := Option.ne_none_iff_exists'.mp hname
  unfold Host.ensureParent
  cases hparent : p.parent? with
  | none => exact .refl S t
  | some q => exact writes_ensureDir ht (needs_parent hname hparent hp)

theorem writes_write (ht : t.Proper) (hp : t.Needs p S) (content : ByteArray) :
    Writes S t ((write p content).run t).2 := by
  rcases write_cases p content t with ⟨e, hrun⟩ | ⟨l, executable, hspot, hrun⟩ <;> rw [hrun]
  · exact .refl S t
  · obtain ⟨hlocate, hl, -⟩ := fileSpot_eq_ok_iff.mp hspot
    exact ht.writes_locate hlocate hl hp _

/-- **Writing a text** writes on the way of its path only. -/
theorem writes_writeText (ht : t.Proper) (hname : p.fileName? ≠ none) (hp : t.Needs p S)
    (text : String) : Writes S t ((Host.writeText p text).run t).2 := by
  have hparent := writes_ensureParent ht hname hp
  refine writes_bind hparent fun x t₁ hrun => ?_
  have hparent := hparent.of_run hrun
  exact writes_write (hparent.proper ht) (hp.of_sameWays hparent.sameWays) _

/-- **A copy of a file** fails and changes nothing, or puts a file where one may be written. -/
theorem copy_cases (source target : Path) (t : FileTree) :
    (∃ e, (copy source target).run t = (.error e, t)) ∨
      ∃ l m content executable, t.locate source = .ok l ∧
        t.entryAt? l = some (.file content executable) ∧ t.fileSpot target = .ok m ∧
        (copy source target).run t =
          (.ok (), t.put m (.file (if m == l then ByteArray.empty else content) executable)) := by
  unfold copy
  rw [run_bind, run_get]
  dsimp only
  cases hlocate : t.locate source with
  | error e => exact Or.inl ⟨e, rfl⟩
  | ok l =>
    dsimp only
    rcases hentry : t.entryAt? l with - | (⟨content, executable⟩ | -)
    · exact Or.inl ⟨.notFound, rfl⟩
    · dsimp only
      cases hspot : t.fileSpot target with
      | error e => exact Or.inl ⟨e, rfl⟩
      | ok m => exact Or.inr ⟨l, m, content, executable, rfl, hentry, rfl, rfl⟩
    · exact Or.inl ⟨.notRegular, rfl⟩

/-- **Copying a file** writes on the way of the target only. -/
theorem writes_copyFile (ht : t.Proper) (hname : target.fileName? ≠ none) (hp : t.Needs target S)
    (source : Path) : Writes S t ((Host.copyFile source target).run t).2 := by
  have hparent := writes_ensureParent ht hname hp
  refine writes_bind hparent fun x t₁ hrun => ?_
  have hparent := hparent.of_run hrun
  rw [run_adapt]
  rcases copy_cases source target t₁ with
    ⟨e, hcopy⟩ | ⟨l, m, content, executable, -, -, hspot, hcopy⟩ <;> rw [hcopy]
  · exact .refl S t₁
  · obtain ⟨hlocate, hm, -⟩ := fileSpot_eq_ok_iff.mp hspot
    exact (hparent.proper ht).writes_locate hlocate hm (hp.of_sameWays hparent.sameWays) _

/-- **What was created is a directory**, to which the names lead. -/
theorem follow_of_makeDirsFrom {here names : List String} (hnames : names ≠ [])
    (h : (makeDirsFrom here start names).run t = (.ok (), t')) :
    ∃ l, t'.follow start (here ++ names) = .ok l ∧ t'.entryAt? l = some .directory := by
  induction names generalizing here t with
  | nil => exact absurd rfl hnames
  | cons s names ih =>
    have hshift : here ++ s :: names = (here ++ [s]) ++ names := by simp
    -- behind the name its place is a directory, whether it was one before or not
    have hstep : ∃ t₁ l, t₁.follow start (here ++ [s]) = .ok l ∧
        t₁.entryAt? l = some .directory ∧
        (makeDirsFrom (here ++ [s]) start names).run t₁ = (.ok (), t') := by
      rw [run_makeDirsFrom_cons] at h
      cases hfollow : t.follow start (here ++ [s]) with
      | error e =>
        rw [hfollow] at h
        cases h
      | ok l =>
        rw [hfollow] at h
        dsimp only at h
        rcases hentry : t.entryAt? l with - | (⟨content, executable⟩ | -) <;> rw [hentry] at h
        · have hways := (within_put (e := .directory) hentry).sameWays
          refine ⟨_, l, follow_of_directories hways.directories hfollow, ?_, h⟩
          rw [entryAt?_put (ne_nil_of_entryAt? (t := t) (by simp [hentry])), if_pos rfl]
        · cases h
        · exact ⟨t, l, hfollow, hentry, h⟩
    obtain ⟨t₁, l, hfollow, hdir, hrest⟩ := hstep
    rw [hshift]
    by_cases hempty : names = []
    · subst hempty
      obtain rfl : t₁ = t' := congrArg Prod.snd hrest
      exact ⟨l, by simpa using hfollow, hdir⟩
    · exact ih hempty hrest

/-- **The directory of a path is there** after it was created. -/
theorem locate_of_ensureDir (htext : p.text ≠ "")
    (h : (Host.ensureDir p).run t = (.ok (), t')) :
    t'.locate p = .ok (t.placeOf p) ∧ t'.entryAt? (t.placeOf p) = some .directory := by
  have hdir := ((onlyAdds_ensureDir p).within h).workingDir
  have hmake : (makeDirs p).run t = (.ok (), t') := run_adapt_eq_ok_iff.mp h
  have hempty : p.text.isEmpty = false := by simpa using htext
  -- the text may be followed, and following it leads to a directory
  have hlocate : ∃ l, t'.locate p = .ok l ∧ t'.entryAt? l = some .directory := by
    have hstart : t'.startOf p = t.startOf p := by simp [startOf, hdir]
    unfold makeDirs at hmake
    rw [hempty, if_neg (by simp)] at hmake
    dsimp only at hmake
    split at hmake
    · cases hmake
    · rename_i hnul
      split at hmake
      · cases hmake
      · rename_i hlong
        have hfrom : (makeDirsFrom [] (t.startOf p) p.segments).run t = (.ok (), t') := hmake
        have hfollow : ∃ l, t'.follow (t.startOf p) p.segments = .ok l ∧
            t'.entryAt? l = some .directory := by
          by_cases hsegments : p.segments = []
          · exact ⟨[], by rw [hsegments, startOf_eq_nil hempty hsegments]; rfl, rfl⟩
          · simpa using follow_of_makeDirsFrom hsegments hfrom
        obtain ⟨l, hfollow, hl⟩ := hfollow
        refine ⟨l, locate_eq_ok_iff.mpr ⟨⟨(Bool.not_eq_true _).mp hnul, hempty, hlong⟩, ?_, ?_⟩, hl⟩
        · rw [hstart, hfollow]
        · rw [hl]
          rintro - content executable ⟨⟩
  obtain ⟨l, hl, hentry⟩ := hlocate
  have hplace : t.placeOf p = l := (placeOf_of_workingDir hdir p).symm.trans (placeOf_of_locate hl)
  rw [hplace]
  exact ⟨hl, hentry⟩

end FileAction

end RtlFlow
