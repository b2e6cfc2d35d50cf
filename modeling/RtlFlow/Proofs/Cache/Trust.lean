import RtlFlow.Proofs.Cache.Durability

/-! # What is trusted of a stored cache

A file is taken as a whole or not at all. Opening a file that can be read succeeds whatever stands
in it: with the content that its bytes store (`CacheContent.Written`), or else empty, and then
nothing of the document is left but perhaps the file itself, when it could not be removed
(`BuildCache.openStore_of_read`). -/

namespace RtlFlow

namespace CacheStore

variable {t : FileTree} {p : Path} {bytes : ByteArray}

/-- **A file that can be read can be cleared away.** -/
theorem clear_of_read (h : t.read p = .ok bytes) :
    ∃ t', (file p).clear.run t = (.ok (file p), t') ∧ t'.isPresent p = false := by
  obtain ⟨t', hremove⟩ := FileTree.removeFile_of_read h
  refine ⟨t', ?_, FileTree.isPresent_of_removeFile hremove⟩
  unfold clear
  simp only [FileAction.run_bind, FileAction.run_get]
  rw [hremove]
  rfl

end CacheStore

namespace BuildCache

open FileAction CacheStore

variable {t : FileTree} {p : Path} {bytes : ByteArray}

/-- **Opens a cache**, where a given operation clears a content away that cannot be trusted, and may
fail in whatever way. -/
def openWith (removal : FileAction CacheError CacheStore) (s : CacheStore) :
    FileAction CacheError BuildCache := do
  match s.load (← get) with
  | .ok (some c) => return ⟨s, c⟩
  | .ok none => return ⟨s, {}⟩
  | .error (.corrupt ..) =>
    let (result, t) := removal.run (← get)
    set t
    return ⟨result.toOption.getD s, {}⟩
  | .error e => throw e

/-- A store is opened with the operation that clears it. -/
theorem openWith_clear (s : CacheStore) : openWith s.clear s = openStore s := rfl

/-- **A file that stores a content** is opened with it, and stays as it is. -/
theorem openWith_of_written (hread : t.read p = .ok bytes) {c : CacheContent}
    (hc : c.Written bytes.toList) (removal : FileAction CacheError CacheStore) :
    (openWith removal (.file p)).run t = (.ok ⟨.file p, c⟩, t) := by
  have hload := load_eq_of_read hread
  rw [CacheContent.decode_eq_ok_iff.mpr hc] at hload
  unfold openWith
  simp only [run_bind, run_get, hload]
  rfl

/-- **A file that stores no content** is opened empty behind the operation that clears it away,
whatever that answers. -/
theorem openWith_of_not_written (hread : t.read p = .ok bytes)
    (hnone : ∀ c : CacheContent, ¬ c.Written bytes.toList)
    (removal : FileAction CacheError CacheStore) :
    (openWith removal (.file p)).run t =
      (.ok ⟨(removal.run t).1.toOption.getD (.file p), {}⟩, (removal.run t).2) := by
  have hload := load_eq_of_read hread
  cases hdecode : CacheContent.decode bytes.toList with
  | ok c => exact absurd (CacheContent.decode_eq_ok_iff.mp hdecode) (hnone c)
  | error why =>
    rw [hdecode] at hload
    unfold openWith
    simp only [run_bind, run_get, hload]
    rfl

/-- **A stored cache is trusted as a whole or not at all.** A file that can be read is opened
whatever stands in it: with the content that it stores, every entry of it, and then the file stays;
or empty, when it stores none, and then the file is gone. Without the one version of today it stores
none. Nothing but the tree that is left depends on how the file is cleared away, and on whether that
succeeds. -/
theorem openStore_of_read (hread : t.read p = .ok bytes) :
    ∃ c t', (openStore (.file p)).run t = (.ok ⟨.file p, c⟩, t') ∧
      ((c.Written bytes.toList ∧ t' = t ∧
          ∀ removal, (openWith removal (.file p)).run t = (.ok ⟨.file p, c⟩, t)) ∨
        (c = {} ∧ (∀ c' : CacheContent, ¬ c'.Written bytes.toList) ∧ t'.isPresent p = false ∧
          ∀ removal, (openWith removal (.file p)).run t =
            (.ok ⟨(removal.run t).1.toOption.getD (.file p), {}⟩, (removal.run t).2))) ∧
      ((∀ j v, Json.readBytes bytes.toList = .ok j → j.Holds "version" v →
          v.nat? ≠ some CacheContent.schemaVersion) →
        c = {} ∧ t'.isPresent p = false) := by
  by_cases hwritten : ∃ c : CacheContent, c.Written bytes.toList
  · obtain ⟨c, hc⟩ := hwritten
    have hopen := openWith_of_written hread hc
    refine ⟨c, t, hopen _, Or.inl ⟨hc, rfl, hopen⟩, fun hversion => ?_⟩
    -- a content that is stored is stored with its version
    obtain ⟨j, hj, hstored⟩ := hc
    obtain ⟨v, hv, hnumber⟩ := hstored.version
    exact absurd hnumber (hversion j v hj hv)
  · have hnone : ∀ c : CacheContent, ¬ c.Written bytes.toList := fun c hc => hwritten ⟨c, hc⟩
    have hopen := openWith_of_not_written hread hnone
    obtain ⟨t', hclear, habsent⟩ := clear_of_read hread
    refine ⟨{}, t', ?_, Or.inr ⟨rfl, hnone, habsent, hopen⟩, fun _ => ⟨rfl, habsent⟩⟩
    rw [← openWith_clear, hopen, hclear]
    rfl

/-- A document that is a cache but for its version. -/
def unversioned : Json :=
  .object [("version", .null), ("next_generation", .nat 1),
    ("entries", .object [("ghdl", .object [("/p/top.vhd",
      (⟨"00", .passed, ⟨"2024-05-01T12:00:00Z"⟩, 1⟩ : CacheEntry).toJson)])])]

/-- A tree with nothing but that document. -/
def unversionedFiles : FileTree := ⟨[(["c.json"], .file unversioned.pretty.toUTF8 false)], []⟩

/-- A file without a version is not trusted, though there is an entry in it. -/
theorem openStore_unversioned :
    unversionedFiles.read ⟨"/c.json"⟩ = .ok unversioned.pretty.toUTF8 ∧
      ∃ t', (openStore (.file ⟨"/c.json"⟩)).run unversionedFiles =
        (.ok ⟨.file ⟨"/c.json"⟩, {}⟩, t') ∧ t'.isPresent ⟨"/c.json"⟩ = false := by
  have hread : unversionedFiles.read ⟨"/c.json"⟩ = .ok unversioned.pretty.toUTF8 :=
    FileTree.read_eq_ok_iff.mpr ⟨["c.json"], false, by decide +kernel, rfl⟩
  have hplain : unversioned.Plain := by
    refine .object fun m hm => ?_
    simp only [List.mem_cons, List.not_mem_nil, or_false] at hm
    rcases hm with rfl | rfl | rfl
    · exact .null
    · exact .nat 1
    · exact .object (List.forall_mem_singleton.mpr
        (.object (List.forall_mem_singleton.mpr (CacheEntry.plain_toJson _))))
  obtain ⟨c, t', hopen, -, hversion⟩ := openStore_of_read hread
  obtain ⟨rfl, habsent⟩ := hversion fun j v hj hv => by
    rw [Json.readBytes_pretty hplain] at hj
    obtain rfl := Except.ok.inj hj
    have honly := Json.filter_name_eq_singleton_iff.mpr hv
    obtain rfl : Json.null = v := congrArg Prod.snd (List.cons.inj honly).1
    exact fun hnumber => by cases hnumber
  exact ⟨hread, t', hopen, habsent⟩

end BuildCache

end RtlFlow
