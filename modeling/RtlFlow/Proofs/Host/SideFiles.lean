import RtlFlow.Proofs.Host.Files
import RtlFlow.Proofs.PathNeighbours

/-! # Files side by side

When a path leads to something, its directory is there and need not be created
(`run_makeDirs_of_locate`). A file beside it stands at another place, so writing that one leaves it
as it is (`read_write_beside`); and writing a file twice leaves what the second write alone would
have left (`run_write_write`). -/

namespace RtlFlow

namespace FileTree

open FileAction

variable {t : FileTree} {here l m : Location} {names more : List String} {p q : Path}
  {content : ByteArray}

/-! ## Following names -/

/-- Names are followed one after the other. -/
theorem follow_append (t : FileTree) (here : Location) (names more : List String) :
    t.follow here (names ++ more) = (t.follow here names).bind fun k => t.follow k more := by
  induction names generalizing here with
  | nil => rfl
  | cons s names ih =>
    rw [List.cons_append, follow, follow]
    rcases t.entryAt? here with - | (⟨content, executable⟩ | -)
    · rfl
    · rfl
    · dsimp only
      rw [ih here, ih here.dropLast, ih (here ++ [s])]
      by_cases hpoint : s = "."
      · rw [if_pos hpoint, if_pos hpoint]
      · by_cases hup : s = ".."
        · rw [if_neg hpoint, if_neg hpoint, if_pos hup, if_pos hup]
        · by_cases hlong : maxName < s.utf8ByteSize
          · rw [if_neg hpoint, if_neg hpoint, if_neg hup, if_neg hup, if_pos hlong, if_pos hlong]
            rfl
          · rw [if_neg hpoint, if_neg hpoint, if_neg hup, if_neg hup, if_neg hlong, if_neg hlong]

theorem follow_append_eq_ok_iff : t.follow here (names ++ more) = .ok l ↔
    ∃ k, t.follow here names = .ok k ∧ t.follow k more = .ok l := by
  rw [follow_append]
  cases t.follow here names <;> simp [Except.bind]

/-- Points lead nowhere else. -/
theorem eq_of_follow_points (h : ∀ s ∈ names, s = ".") (hfollow : t.follow here names = .ok l) :
    l = here := by
  induction names with
  | nil => exact (Except.ok.inj hfollow).symm
  | cons s names ih =>
    obtain ⟨rfl, hnames⟩ := List.forall_mem_cons.mp h
    unfold follow at hfollow
    split at hfollow
    · cases hfollow
    · cases hfollow
    · rw [if_pos rfl] at hfollow
      exact ih hnames hfollow

/-- A name leads into the directory. -/
theorem follow_name {s : String} (hs : s ≠ "." ∧ s ≠ "..")
    (h : t.follow here (s :: names) = .ok l) : t.follow (here ++ [s]) names = .ok l := by
  unfold follow at h
  split at h
  · cases h
  · cases h
  · rw [if_neg hs.1, if_neg hs.2] at h
    split at h
    · cases h
    · exact h

/-- **Files side by side** stand at two places. -/
theorem ne_of_beside (h : p.Beside q) (hp : t.locate p = .ok l) (hq : t.locate q = .ok m) :
    l ≠ m := by
  obtain ⟨dirs, name, other, points, hsegments, hbeside, hpoints, hne, hname, hother⟩ := h.segments
  obtain ⟨-, hfollow, -⟩ := locate_eq_ok_iff.mp hp
  obtain ⟨-, hfollow', -⟩ := locate_eq_ok_iff.mp hq
  have hstart : t.startOf q = t.startOf p := by simp [startOf, h.isAbsolute]
  rw [hsegments] at hfollow
  rw [hbeside, hstart] at hfollow'
  -- both names are looked up in the directory to which the segments before them lead
  obtain ⟨k, hdirs, hlast⟩ := follow_append_eq_ok_iff.mp hfollow
  obtain ⟨k', hdirs', hlast'⟩ := follow_append_eq_ok_iff.mp hfollow'
  obtain rfl := follow_unique hdirs hdirs'
  obtain rfl := eq_of_follow_points hpoints (follow_name hname hlast)
  obtain rfl := Except.ok.inj (follow_name hother hlast')
  simpa using Ne.symm hne

/-! ## Directories that are there -/

/-- **Nothing is created** along names that are followed on to something. -/
theorem run_makeDirsFrom_of_follow {here : List String} {start : Location} (hmore : more ≠ [])
    (h : t.follow start (here ++ (names ++ more)) = .ok l) :
    (makeDirsFrom here start names).run t = (.ok (), t) := by
  induction names generalizing here with
  | nil => rfl
  | cons s names ih =>
    have h : t.follow start ((here ++ [s]) ++ (names ++ more)) = .ok l := by simpa using h
    obtain ⟨k, hk, hrest⟩ := follow_append_eq_ok_iff.mp h
    -- what is followed on is a directory
    have hdir : t.entryAt? k = some .directory := by
      obtain ⟨s', rest, heq⟩ := List.exists_cons_of_ne_nil
        (List.append_ne_nil_of_right_ne_nil names hmore)
      rw [heq] at hrest
      exact (follow_cons_eq_ok hrest).1
    rw [run_makeDirsFrom_cons, hk]
    dsimp only
    rw [hdir]
    exact ih h

/-- **The directory of a path that leads somewhere** need not be created, nor any in front of it. -/
theorem run_makeDirs_of_locate {name : String} (hname : p.fileName? = some name)
    (hq : p.parent? = some q) (h : t.locate p = .ok l) :
    (makeDirs q).run t = (.ok (), t) ∧
      ∀ n, (makeDirsFrom [] (t.startOf q) (q.segments.take n)).run t = (.ok (), t) := by
  obtain ⟨⟨more, hmore, hsegments⟩, habsolute, rest, htext⟩ := Path.parent?_spec hname hq
  obtain ⟨⟨hnul, -, hlong⟩, hfollow, -⟩ := locate_eq_ok_iff.mp h
  have hstart : t.startOf q = t.startOf p := by simp [startOf, habsolute]
  rw [hsegments, ← hstart] at hfollow
  have hmake : ∀ n, (makeDirsFrom [] (t.startOf q) (q.segments.take n)).run t = (.ok (), t) := by
    intro n
    have hne : q.segments.drop n ++ more ≠ [] := List.append_ne_nil_of_right_ne_nil _ hmore
    refine run_makeDirsFrom_of_follow (l := l) hne ?_
    rwa [List.nil_append, ← List.append_assoc, List.take_append_drop]
  refine ⟨?_, hmake⟩
  -- the text of the directory is part of that of the path
  rw [htext, String.toList_append, List.any_append, Bool.or_eq_false_iff] at hnul
  rw [htext, String.utf8ByteSize_append] at hlong
  unfold makeDirs
  by_cases hempty : q.text.isEmpty
  · rw [if_pos hempty]
    rfl
  · rw [if_neg hempty, if_neg (by simp [hnul.1]), if_neg (by omega)]
    have hall := hmake q.segments.length
    rwa [List.take_length] at hall

/-! ## Writing beside -/

/-- An entry that is put twice at one place is the second one. -/
theorem put_put (t : FileTree) (l : Location) (e e' : Entry) :
    (t.put l e).put l e' = t.put l e' := by
  have hentries : ∀ entries, putIn l e' (putIn l e entries) = putIn l e' entries := by
    intro entries
    induction entries with
    | nil => simp [putIn]
    | cons x entries ih =>
      obtain ⟨k, old⟩ := x
      by_cases hk : k = l
      · simp [putIn, hk]
      · simp [putIn, hk, ih]
  simp [put, hentries]

/-- A file may be written again where one was written. -/
theorem fileSpot_put (h : t.fileSpot p = .ok l) (content : ByteArray) (executable : Bool) :
    (t.put l (.file content executable)).fileSpot p = .ok l := by
  obtain ⟨hlocate, hne, hend⟩ := fileSpot_eq_ok_iff.mp h
  have hdir : (t.put l (.file content executable)).workingDir = t.workingDir := rfl
  refine fileSpot_eq_ok_iff.mpr ⟨locate_of_directories hdir
    (fun _ => directory_put hne (fun _ hk => hk) _) hend hlocate, ?_, hend⟩
  rw [entryAt?_put (ne_nil_of_entryAt? hne), if_pos rfl]
  simp

/-- **A file that is written twice** is what the second write makes of it. -/
theorem run_write_write (p : Path) (content content' : ByteArray) (t : FileTree) :
    (write p content').run ((write p content).run t).2 = (write p content').run t := by
  cases hspot : t.fileSpot p with
  | error e => simp only [run_write, hspot]
  | ok l =>
    -- the second write finds the place and the mode that the first one has found
    have hl := ne_nil_of_entryAt? (fileSpot_eq_ok_iff.mp hspot).2.1
    have hmode : (t.put l (.file content (t.modeAt l))).modeAt l = t.modeAt l := by
      rw [modeAt, entryAt?_put hl, if_pos rfl]
    simp only [run_write, hspot, fileSpot_put hspot, hmode, put_put]

/-- **A file is read as before** when one beside it was written. -/
theorem read_write_beside (h : p.Beside q) (hread : t.read p = .ok content)
    (content' : ByteArray) :
    ((write q content').run t).2.read p = .ok content := by
  rw [run_write]
  cases hspot : t.fileSpot q with
  | error e => exact hread
  | ok m =>
    obtain ⟨l, executable, hlocate, hentry⟩ := read_eq_ok_iff.mp hread
    obtain ⟨hlocate', hne', -⟩ := fileSpot_eq_ok_iff.mp hspot
    have hdir : (t.put m (.file content' (t.modeAt m))).workingDir = t.workingDir := rfl
    have hend : endsInSeparator p = false := by
      by_contra hend
      exact (locate_eq_ok_iff.mp hlocate).2.2 (by simpa using hend) content executable hentry
    refine read_eq_ok_iff.mpr ⟨l, executable, locate_of_directories hdir
      (fun _ => directory_put hne' (fun _ hk => hk) _) hend hlocate, ?_⟩
    rw [entryAt?_put (ne_nil_of_entryAt? hne'), if_neg (ne_of_beside h hlocate hlocate'), hentry]

end FileTree

end RtlFlow
