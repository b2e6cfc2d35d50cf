import RtlFlow.Proofs.Archive.Names
import RtlFlow.Proofs.Host.Writes

/-! # The directory of a new bundle

The directory of a bundle is created under the first numbered name that is free, in a tree in which
only the root of the archive was added (`createBundle_cases`). As many names are tried as there are
entries, and one more, so one of them is free (`exists_candidate_absent`), and no bundle fails
because all its names are taken (`createFrom_stops`). The name tells whether the operation failed,
unless the project is called after the tag (`tag_of_write`). -/

namespace RtlFlow

namespace FileTree

open FileAction

variable {t : FileTree} {l : Location} {p : Path}

/-! ## Creating one directory -/

theorem follow_ne_fileExists (here : Location) (names : List String) :
    t.follow here names ≠ .error .fileExists := by
  induction names generalizing here with
  | nil => simp [follow]
  | cons s names ih =>
    unfold follow
    split
    · simp
    · simp
    · split
      · exact ih _
      · split
        · exact ih _
        · split
          · simp
          · exact ih _

/-- **No path is refused because it leads to something.** -/
theorem locate_ne_fileExists : t.locate p ≠ .error .fileExists := by
  unfold locate
  cases p.text.toList.any (· = '\x00')
  · cases p.text.isEmpty
    · by_cases hlong : maxPath ≤ p.text.utf8ByteSize
      · simp [hlong, bind, Except.bind]
      · cases hplace : t.follow (t.startOf p) p.segments with
        | error e =>
          have hne : e ≠ .fileExists := fun heq => follow_ne_fileExists _ _ (heq ▸ hplace)
          simpa [hlong, bind, Except.bind] using hne
        | ok l =>
          simp only [hlong, bind, Except.bind, Bool.false_eq_true, if_false]
          split
          · split <;> simp
          · simp
    · simp [bind, Except.bind]
  · simp [bind, Except.bind]

theorem isPresent_iff : t.isPresent p = true ↔ ∃ l, t.locate p = .ok l ∧ t.entryAt? l ≠ none := by
  unfold isPresent get?
  cases t.locate p with
  | error e => simp
  | ok l => simp [Option.isSome_iff_ne_none]

/-- **One directory is created** where nothing stands, or the tree stays as it is: because something
stands there, or for another reason. -/
theorem makeDir_cases (p : Path) (t : FileTree) :
    (t.isPresent p = true ∧ (makeDir p).run t = (.error .fileExists, t)) ∨
      (∃ e, e ≠ .fileExists ∧ (makeDir p).run t = (.error e, t)) ∨
      ∃ l, t.locate p = .ok l ∧ t.entryAt? l = none ∧
        (makeDir p).run t = (.ok (), t.put l .directory) := by
  unfold makeDir
  rw [run_bind, run_get]
  dsimp only
  cases hlocate : t.locate p with
  | error e =>
    exact Or.inr (Or.inl ⟨e, fun heq => locate_ne_fileExists (heq ▸ hlocate), rfl⟩)
  | ok l =>
    dsimp only
    cases hentry : t.entryAt? l with
    | none => exact Or.inr (Or.inr ⟨l, rfl, hentry, rfl⟩)
    | some e => exact Or.inl ⟨isPresent_iff.mpr ⟨l, hlocate, by simp [hentry]⟩, rfl⟩

end FileTree

namespace Archive

open FileTree FileAction
open RtlFlow.Path (IsName)

variable {t t' : FileTree} {root path : Path} {base name project stamp : String}
  {operation : Operation} {succeeded : Bool} {l : Location}

/-! ## The root of the archive -/

/-- The tree in which the root of the archive was created, as far as it was missing. -/
def withRoot (root : Path) (t : FileTree) : FileTree := ((Host.ensureDir root).run t).2

theorem within_withRoot (root : Path) (t : FileTree) : Within t (withRoot root t) :=
  onlyAdds_ensureDir root t

theorem proper_withRoot (ht : t.Proper) (root : Path) : (withRoot root t).Proper :=
  (writes_ensureDir (S := Set.univ) ht fun _ _ => Or.inl trivial).proper ht

/-! ## The first name that is free -/

/-- The path under which a bundle is created when a number of names are taken. -/
def candidate (root : Path) (base : String) (n : Nat) : Path := root.child (numbered base n)

theorem run_createFrom_succ (root : Path) (base : String) (fuel n : Nat) (t : FileTree) :
    (createFrom root base (fuel + 1) n).run t =
      match (makeDir (candidate root base n)).run t with
      | (.ok (), t') => (.ok (numbered base n, candidate root base n), t')
      | (.error .fileExists, _) => (createFrom root base fuel (n + 1)).run t
      | (.error e, _) => (.error (.write (candidate root base n) e.message), t) := by
  rw [createFrom, run_bind, run_get]
  dsimp only
  rcases makeDir_cases (candidate root base n) t with ⟨-, hrun⟩ | ⟨e, hne, hrun⟩ | ⟨l, -, -, hrun⟩
  · have hrun' : (makeDir (root.child (numbered base n))).run t = (.error .fileExists, t) := hrun
    rw [hrun, hrun']
  · have hrun' : (makeDir (root.child (numbered base n))).run t = (.error e, t) := hrun
    rw [hrun, hrun']
    cases e <;> first | exact absurd rfl hne | rfl
  · have hrun' : (makeDir (root.child (numbered base n))).run t =
      (.ok (), t.put l .directory) := hrun
    rw [hrun, hrun']
    rfl

/-- **How the search for a free name ends**: with the first name under which nothing stands, which
is given to the bundle or refused for another reason, or when all names that may be tried are
taken. -/
theorem createFrom_cases (root : Path) (base : String) (fuel n : Nat) (t : FileTree) :
    (∀ j < fuel, t.isPresent (candidate root base (n + j)) = true) ∧
        (∃ e, (createFrom root base fuel n).run t = (.error e, t)) ∨
      ∃ k < fuel, (∀ j < k, t.isPresent (candidate root base (n + j)) = true) ∧
        ((∃ e, e ≠ .fileExists ∧
            (makeDir (candidate root base (n + k))).run t = (.error e, t) ∧
            (createFrom root base fuel n).run t =
              (.error (.write (candidate root base (n + k)) e.message), t)) ∨
          ∃ l, t.locate (candidate root base (n + k)) = .ok l ∧ t.entryAt? l = none ∧
            (createFrom root base fuel n).run t =
              (.ok (numbered base (n + k), candidate root base (n + k)), t.put l .directory)) := by
  -- on the names that may still be tried; those from `n` on are the ones spoken of
  induction fuel generalizing n with
  | zero => exact Or.inl ⟨by simp, _, rfl⟩
  | succ fuel ih =>
    rw [run_createFrom_succ]
    rcases makeDir_cases (candidate root base n) t with
      ⟨hpresent, hrun⟩ | ⟨e, hne, hrun⟩ | ⟨l, hlocate, hfree, hrun⟩
    · -- this name is taken, and the search goes on behind it
      rw [hrun]
      have hshift : ∀ j, n + 1 + j = n + (j + 1) := fun j => by omega
      have hfirst : ∀ m, (∀ j < m, t.isPresent (candidate root base (n + 1 + j)) = true) →
          ∀ j < m + 1, t.isPresent (candidate root base (n + j)) = true := by
        intro m hm j hj
        cases j with
        | zero => exact hpresent
        | succ j => exact hshift j ▸ hm j (by omega)
      rcases ih (n + 1) with ⟨htaken, hend⟩ | ⟨k, hk, htaken, hend⟩
      · exact Or.inl ⟨hfirst fuel htaken, hend⟩
      · exact Or.inr ⟨k + 1, by omega, hfirst k htaken, hshift k ▸ hend⟩
    · refine Or.inr ⟨0, by omega, by simp, Or.inl ⟨e, hne, hrun, ?_⟩⟩
      rw [hrun]
      cases e <;> first | exact absurd rfl hne | rfl
    · refine Or.inr ⟨0, by omega, by simp, Or.inr ⟨l, hlocate, hfree, ?_⟩⟩
      rw [hrun]
      rfl

/-- **One of the names that are tried is free**: there are more of them than entries. -/
theorem exists_candidate_absent (hname : ∀ n, IsName (numbered base n)) (root : Path)
    (t : FileTree) :
    ∃ n < t.entries.length + 1, t.isPresent (candidate root base n) = false := by
  have hinjective : Function.Injective fun n => t.placeOf root ++ [numbered base n] := by
    intro n m heq
    exact numbered_injective base (List.singleton_inj.mp (List.append_cancel_left heq))
  obtain ⟨n, hn, hfree⟩ := exists_lt_notMem hinjective (t.entries.map (·.1))
  -- the name is tried at a place that has no entry
  refine ⟨n, by simpa using hn, ?_⟩
  rw [← Bool.not_eq_true, isPresent_iff]
  rintro ⟨l, hlocate, hentry⟩
  obtain rfl := placeOf_of_locate hlocate
  rw [candidate, placeOf_child (hname n)] at hentry
  exact hfree ((mem_keys_iff (by simp)).mpr hentry)

/-- **No bundle fails because its names are taken**: where none is created, the machine refuses the
first name under which nothing stands. -/
theorem createFrom_stops (hname : ∀ n, IsName (numbered base n)) {e : ArchiveError}
    (h : (createFrom root base (t.entries.length + 1) 0).run t = (.error e, t')) :
    ∃ n, (∀ j < n, t.isPresent (candidate root base j) = true) ∧
      ∃ f, f ≠ .fileExists ∧ (makeDir (candidate root base n)).run t = (.error f, t) ∧
        e = .write (candidate root base n) f.message := by
  rcases createFrom_cases root base (t.entries.length + 1) 0 t with
    ⟨htaken, -⟩ | ⟨k, -, htaken, ⟨f, hne, hmake, hrun⟩ | ⟨l, -, -, hrun⟩⟩
  · obtain ⟨n, hn, habsent⟩ := exists_candidate_absent hname root t
    rw [← Nat.zero_add n, htaken n hn] at habsent
    cases habsent
  · rw [Nat.zero_add] at hmake hrun
    rw [hrun] at h
    cases h
    exact ⟨k, by simpa using htaken, f, hne, hmake, rfl⟩
  · rw [hrun] at h
    cases h

/-- **What a new bundle is called, and where it stands.** -/
structure IsFirstFree (root : Path) (base : String) (t : FileTree) (name : String) (path : Path)
    (l : Location) : Prop where
  /-- The name has the least number that is free. -/
  number : ∃ n, name = numbered base n ∧ ∀ j < n, t.isPresent (candidate root base j) = true
  /-- The directory is a child of the root. -/
  child : path = root.child name
  /-- Its path leads to a place. -/
  leads : t.locate path = .ok l
  /-- Nothing stands there. -/
  free : t.entryAt? l = none

/-- Nothing is there under the name of a new bundle. -/
theorem IsFirstFree.absent (h : IsFirstFree root base t name path l) :
    t.isPresent path = false := by
  rw [← Bool.not_eq_true, isPresent_iff]
  rintro ⟨k, hk, hentry⟩
  obtain rfl := Except.ok.inj (h.leads.symm.trans hk)
  exact hentry h.free

/-- **The directory of a bundle is created** under the first name that is free, unless the root of
the archive or the directory is refused; nothing but the root is added then. -/
theorem createBundle_cases (root : Path) (base : String) (t : FileTree) :
    (∃ e, (createBundle root base).run t = (.error e, withRoot root t)) ∨
      ∃ name path l, IsFirstFree root base (withRoot root t) name path l ∧
        (createBundle root base).run t =
          (.ok (name, path), (withRoot root t).put l .directory) := by
  unfold createBundle
  rw [run_bind, run_adapt]
  unfold withRoot
  rcases (Host.ensureDir root).run t with ⟨e | x, t₁⟩
  · exact Or.inl ⟨_, rfl⟩
  · dsimp only [Except.mapError]
    rw [run_bind, run_get]
    dsimp only
    rcases createFrom_cases root base (t₁.entries.length + 1) 0 t₁ with
      ⟨-, e, hrun⟩ | ⟨k, -, htaken, ⟨e, -, -, hrun⟩ | ⟨l, hlocate, hfree, hrun⟩⟩
    · exact Or.inl ⟨e, hrun⟩
    · exact Or.inl ⟨_, hrun⟩
    · rw [Nat.zero_add] at hlocate hrun
      exact Or.inr ⟨_, _, l, ⟨⟨k, rfl, by simpa using htaken⟩, rfl, hlocate, hfree⟩, hrun⟩

/-! ## A whole bundle -/

/-- Copying artifacts changes neither the name nor the directory of a bundle. -/
theorem name_path_of_copyArtifacts {artifacts : List Path} {taken : List String}
    {bundle bundle' : Bundle}
    (h : (copyArtifacts taken bundle artifacts).run t = (.ok bundle', t')) :
    bundle'.name = bundle.name ∧ bundle'.path = bundle.path := by
  induction artifacts generalizing taken bundle t with
  | nil =>
    cases h
    exact ⟨rfl, rfl⟩
  | cons artifact artifacts ih =>
    unfold copyArtifacts at h
    split at h
    · have hrest := ih h
      exact hrest
    · obtain ⟨copied, t₁, -, hrun⟩ := exists_of_bind_eq_ok h
      split at hrun
      · have hrest := ih hrun
        exact hrest
      · have hrest := ih hrun
        exact hrest

/-- Writes the log files of a bundle, if a tool was run. -/
def writeLogsOf (bundle : Path) : Option ToolResult → FileAction ArchiveError Unit
  | some result => writeLogs bundle result
  | none => pure ()

/-- **A bundle is written**: its directory is created, the artifacts are copied into it, and the log
files are written. -/
theorem write_eq (root : Path) (operation : Operation) (project : String) (succeeded : Bool)
    (artifacts : List Path) (result : Option ToolResult) (stamp : String) :
    write root operation project succeeded artifacts result stamp = do
      let (name, path) ← createBundle root (bundleName operation project succeeded stamp)
      let bundle ← copyArtifacts logNames ⟨name, path, [], []⟩ artifacts
      writeLogsOf path result
      return bundle := by
  cases result <;> rfl

/-- **A bundle that was written** has the first name that was free; its artifacts were copied into a
directory that was created for it, and then its log files were written. -/
theorem write_eq_ok {artifacts : List Path} {result : Option ToolResult} {bundle : Bundle}
    (h : (write root operation project succeeded artifacts result stamp).run t = (.ok bundle, t')) :
    ∃ l t₁, IsFirstFree root (bundleName operation project succeeded stamp) (withRoot root t)
        bundle.name bundle.path l ∧
      (copyArtifacts logNames ⟨bundle.name, bundle.path, [], []⟩ artifacts).run
        ((withRoot root t).put l .directory) = (.ok bundle, t₁) ∧
      (writeLogsOf bundle.path result).run t₁ = (.ok (), t') := by
  rw [write_eq] at h
  obtain ⟨⟨name', path'⟩, t₀, hcreate, hfill⟩ := exists_of_bind_eq_ok h
  rcases createBundle_cases root (bundleName operation project succeeded stamp) t with
    ⟨e, hrun⟩ | ⟨name, path, l, hnew, hrun⟩ <;> rw [hrun] at hcreate <;> cases hcreate
  obtain ⟨bundle', t₁, hcopy, hrest⟩ := exists_of_bind_eq_ok hfill
  obtain ⟨_, t₂, hlogs, hpure⟩ := exists_of_bind_eq_ok hrest
  cases hpure
  obtain ⟨hname, hpath⟩ := name_path_of_copyArtifacts hcopy
  dsimp only at hname hpath
  subst hname hpath
  exact ⟨l, t₁, hnew, hcopy, hlogs⟩

/-! ## What the name tells -/

/-- **The tag of failures** stands in front of the name of a bundle exactly when the operation
failed or the project is called so. No bundle of an operation that succeeded has a name of one that
failed in the same project, nor, if the project is not called so, of one that failed in any
project. -/
theorem tag_of_write {artifacts : List Path} {result : Option ToolResult} {bundle : Bundle}
    (h : (write root operation project succeeded artifacts result stamp).run t = (.ok bundle, t')) :
    (IsTagged bundle.name ↔
        succeeded = false ∨ safeName project = errorTag ∨ IsTagged (safeName project)) ∧
      (succeeded = true → ∀ operation' stamp' n,
        bundle.name ≠ numbered (bundleName operation' project false stamp') n) ∧
      (succeeded = true → safeName project ≠ errorTag → ¬ IsTagged (safeName project) →
        ∀ operation' project' stamp' n,
          bundle.name ≠ numbered (bundleName operation' project' false stamp') n) := by
  obtain ⟨l, t₁, hnew, -, -⟩ := write_eq_ok h
  obtain ⟨k, hname, -⟩ := hnew.number
  rw [hname]
  refine ⟨isTagged_numbered_iff, ?_, ?_⟩
  · rintro rfl operation' stamp' n
    exact numbered_ne_failed operation operation' project stamp stamp' k n
  · rintro rfl hne hnot operation' project' stamp' n heq
    -- the one name bears the tag, and the other does not
    have htagged : IsTagged (numbered (bundleName operation' project' false stamp') n) :=
      isTagged_numbered_iff.mpr (Or.inl rfl)
    rw [← heq, isTagged_numbered_iff] at htagged
    rcases htagged with hfailed | hcalled | hcalled
    · cases hfailed
    · exact hne hcalled
    · exact hnot hcalled

/-- A project that is called almost as the tag. -/
theorem tag_of_write_errors :
    ((write ⟨"/archive"⟩ .compile "ERRORS" true [] none "20240301_101500").run ⟨[], []⟩).1 =
        .ok ⟨"ERRORS_compile_20240301_101500",
          ⟨"/archive/ERRORS_compile_20240301_101500"⟩, [], []⟩ ∧
      ¬ IsTagged "ERRORS_compile_20240301_101500" ∧
      ∀ operation project stamp n, "ERRORS_compile_20240301_101500" ≠
        numbered (bundleName operation project false stamp) n := by
  have hreply : ((write ⟨"/archive"⟩ .compile "ERRORS" true [] none "20240301_101500").run
      ⟨[], []⟩).1 = .ok ⟨"ERRORS_compile_20240301_101500",
        ⟨"/archive/ERRORS_compile_20240301_101500"⟩, [], []⟩ := by
    decide +kernel
  refine ⟨hreply, ?_⟩
  rcases hrun : (write ⟨"/archive"⟩ .compile "ERRORS" true [] none "20240301_101500").run
    ⟨[], []⟩ with ⟨reply, t'⟩
  rw [hrun] at hreply
  dsimp only at hreply
  subst hreply
  obtain ⟨htag, -, hapart⟩ := tag_of_write hrun
  have hne : safeName "ERRORS" ≠ errorTag := by decide +kernel
  have hnot : ¬ IsTagged (safeName "ERRORS") := by decide +kernel
  refine ⟨fun htagged => ?_, hapart rfl hne hnot⟩
  rcases htag.mp htagged with hfailed | hcalled | hcalled
  · cases hfailed
  · exact hne hcalled
  · exact hnot hcalled

/-- **A success that is named as a failure**: the bundles of two projects, one of which is called
after the tag. -/
theorem success_named_as_failure :
    ((write ⟨"/archive"⟩ .compile "ERROR_uart" true [] none "20240301_101500").run ⟨[], []⟩).1 =
        .ok ⟨"ERROR_uart_compile_20240301_101500",
          ⟨"/archive/ERROR_uart_compile_20240301_101500"⟩, [], []⟩ ∧
      IsTagged "ERROR_uart_compile_20240301_101500" ∧
      bundleName .compile "uart" false "20240301_101500" =
        "ERROR_uart_compile_20240301_101500" := by
  decide +kernel

end Archive

end RtlFlow
