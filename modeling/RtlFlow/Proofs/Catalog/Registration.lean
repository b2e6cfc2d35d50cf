import RtlFlow.Catalog.Basic
import RtlFlow.Proofs.PathIdentity
import RtlFlow.Proofs.Text.LowerCase
import Mathlib.Data.List.Nodup

/-! # Catalogs as they are built

A catalog is built from an empty one by registering files and adding constraints and generics.
`Registered` is that closure, and every law of catalogs is an induction over it: no two files have
one path, and the library of a file is a name in lower case that is not empty. From these it
follows that the files of a library, looked up by its name, are those whose library it is
(`filesFor_eq_filesIn`). -/

namespace RtlFlow

open RtlFlow.Text.Unicode

namespace Catalog

variable {c c' : Catalog}

/-- **A catalog that was built by registration.** A registration that fails leaves no catalog. -/
inductive Registered : Catalog → Prop
  /-- The catalog without files. -/
  | empty (root : Path) : Registered (.empty root)
  /-- One more file is registered. -/
  | register {c c' : Catalog} (hc : Registered c) (p : Path) (library : String)
      (a : SourceAttributes) (h : c.register p library a = .ok c') : Registered c'
  /-- One more constraints file is added. -/
  | addConstraints {c : Catalog} (hc : Registered c) (p : Path) (flow : Option String) :
      Registered (c.addConstraints p flow)
  /-- A generic is given a value. -/
  | addGeneric {c : Catalog} (hc : Registered c) (name : String) (value : GenericValue) :
      Registered (c.addGeneric name value)

/-- **What a registration does**: it leaves the catalog as it is, or puts one file with a new path
and a library in lower case behind the files that are there. -/
theorem register_eq_ok {p : Path} {library : String} {a : SourceAttributes}
    (h : c.register p library a = .ok c') :
    c' = c ∨ ∃ file : SourceFile, c' = { c with files := c.files ++ [file] } ∧
      file.path = c.resolvePath p ∧ (∀ f ∈ c.files, f.path ≠ file.path) ∧
      file.library = lowercase (Text.trim library) ∧ file.library ≠ "" := by
  unfold register at h
  simp only at h
  -- the name and the path stay closed: the unifier would run the functions that make them
  generalize lowercase (Text.trim library) = name at h ⊢
  generalize c.resolvePath p = path at h ⊢
  split at h
  · simp at h
  · rename_i hempty
    split at h
    · split at h
      · exact Or.inl (Except.ok.inj h).symm
      · simp at h
    · rename_i hfind
      obtain rfl := Except.ok.inj h
      refine Or.inr ⟨_, rfl, rfl, fun f hf => ?_, rfl, ?_⟩
      · simpa using List.find?_eq_none.mp hfind f hf
      · simpa [String.isEmpty_iff] using hempty

/-- **The file as which a path is registered.** -/
def fileFor (c : Catalog) (p : Path) (library : String) (a : SourceAttributes) : SourceFile where
  path := c.resolvePath p
  library := lowercase (Text.trim library)
  kind := a.kind.getD (FileKind.ofPath (c.resolvePath p))
  synthesize := a.synthesize
  generics := a.generics
  dependsOn := a.dependsOn
  toolArgs := a.toolArgs

@[simp] theorem fileFor_path (c : Catalog) (p : Path) (library : String) (a : SourceAttributes) :
    (c.fileFor p library a).path = c.resolvePath p := by rw [fileFor]

/-- **A registration, by cases.** -/
theorem register_eq (c : Catalog) (p : Path) (library : String) (a : SourceAttributes) :
    c.register p library a =
      if (c.fileFor p library a).library.isEmpty then .error (.emptyLibrary (c.resolvePath p))
      else
        match c.file? p with
        | some f =>
          if f.same (c.fileFor p library a) then .ok c
          else .error (.duplicateFile (c.resolvePath p) f.library)
        | none => .ok { c with files := c.files ++ [c.fileFor p library a] } := rfl

/-- The file with a path has that path, as the catalog keeps it. -/
theorem path_of_file? {p : Path} {f : SourceFile} (h : c.file? p = some f) :
    f ∈ c.files ∧ f.path = c.resolvePath p := by
  unfold file? at h
  exact ⟨List.mem_of_find?_eq_some h, by simpa using List.find?_some h⟩

/-- **A file that was registered is found by its path**: as it was given, unless it was there before
and is equal to the given one. -/
theorem file?_of_register {p : Path} {library : String} {a : SourceAttributes}
    (h : c.register p library a = .ok c') :
    ∃ f, c'.file? p = some f ∧
      (f = c.fileFor p library a ∨ c' = c ∧ f.same (c.fileFor p library a) = true) := by
  rw [register_eq] at h
  split at h
  · cases h
  · cases hfile : c.file? p with
    | some f =>
      simp only [hfile] at h
      split at h
      · rename_i hsame
        obtain rfl := Except.ok.inj h
        exact ⟨f, hfile, Or.inr ⟨rfl, hsame⟩⟩
      · cases h
    | none =>
      simp only [hfile] at h
      obtain rfl := Except.ok.inj h
      refine ⟨c.fileFor p library a, ?_, Or.inl rfl⟩
      unfold file? at hfile ⊢
      show ((c.files ++ [c.fileFor p library a]).find? fun f => f.path == c.resolvePath p) = _
      rw [List.find?_append, hfile, Option.none_or, List.find?_cons_of_pos (by simp)]

/-- **The file of a path after its registration** has the library and the hints that were given,
also where it was there before. -/
theorem exists_file?_of_register {p : Path} {library : String} {a : SourceAttributes}
    (h : c.register p library a = .ok c') :
    ∃ f, c'.file? p = some f ∧ f.library = lowercase (Text.trim library) ∧
      f.dependsOn = a.dependsOn := by
  obtain ⟨f, hf, hcase⟩ := file?_of_register h
  refine ⟨f, hf, ?_⟩
  rcases hcase with rfl | ⟨-, hsame⟩
  · rw [fileFor]
    exact ⟨rfl, rfl⟩
  · simp only [SourceFile.same, Bool.and_eq_true, beq_iff_eq] at hsame
    obtain ⟨⟨⟨⟨⟨⟨-, hlibrary⟩, -⟩, -⟩, -⟩, hhints⟩, -⟩ := hsame
    rw [hlibrary, hhints, fileFor]
    exact ⟨rfl, rfl⟩

/-! ## Laws of registered catalogs -/

/-- **No two files of a catalog have one path.** -/
theorem Registered.nodup_paths (hc : c.Registered) : (c.files.map (·.path)).Nodup := by
  induction hc with
  | empty => exact List.nodup_nil
  | register hc p library a h ih =>
    rcases register_eq_ok h with rfl | ⟨file, rfl, -, hnew, -, -⟩
    · exact ih
    · rw [List.map_append, List.nodup_append]
      refine ⟨ih, List.nodup_singleton _, ?_⟩
      intro q hq r hr
      obtain ⟨f, hf, rfl⟩ := List.mem_map.mp hq
      rw [List.mem_singleton.mp hr]
      exact hnew f hf
  | addConstraints _ _ _ ih => exact ih
  | addGeneric _ _ _ ih => exact ih

/-- The path of a file is a normalised one. -/
theorem Registered.path_normalized (hc : c.Registered) {f : SourceFile} (hf : f ∈ c.files) :
    ∃ p : Path, f.path = p.normalize := by
  induction hc with
  | empty => simp [Catalog.empty] at hf
  | register hc p library a h ih =>
    rcases register_eq_ok h with rfl | ⟨file, rfl, hpath, -, -, -⟩
    · exact ih hf
    · rcases List.mem_append.mp hf with hf | hf
      · exact ih hf
      · obtain rfl := List.mem_singleton.mp hf
        exact ⟨_, hpath⟩
  | addConstraints _ _ _ ih => exact ih hf
  | addGeneric _ _ _ ih => exact ih hf

/-- **Files with one path are one file**, also where only the components of the paths agree. -/
theorem Registered.eq_of_same_path (hc : c.Registered) {f g : SourceFile} (hf : f ∈ c.files)
    (hg : g ∈ c.files) (h : f.path.same g.path = true) : f = g := by
  refine List.inj_on_of_nodup_map hc.nodup_paths hf hg ?_
  obtain ⟨p, hp⟩ := hc.path_normalized hf
  obtain ⟨q, hq⟩ := hc.path_normalized hg
  rw [hp, hq] at h ⊢
  exact Path.normalize_eq_of_same h

/-- No file stands twice in a catalog. -/
theorem Registered.nodup_files (hc : c.Registered) : c.files.Nodup := hc.nodup_paths.of_map _

theorem Registered.nodup_filesIn (hc : c.Registered) (l : String) : (c.filesIn l).Nodup :=
  hc.nodup_files.filter _

/-- **The library of a file is a name in lower case**, and not empty. -/
theorem Registered.library_spec (hc : c.Registered) {f : SourceFile} (hf : f ∈ c.files) :
    lowercase f.library = f.library ∧ f.library ≠ "" := by
  induction hc with
  | empty => simp [Catalog.empty] at hf
  | register hc p library a h ih =>
    rcases register_eq_ok h with rfl | ⟨file, rfl, -, -, hlib, hne⟩
    · exact ih hf
    · rcases List.mem_append.mp hf with hf | hf
      · exact ih hf
      · obtain rfl := List.mem_singleton.mp hf
        exact ⟨by rw [hlib, lowercase_lowercase], hne⟩
  | addConstraints _ _ _ ih => exact ih hf
  | addGeneric _ _ _ ih => exact ih hf

/-! ## Libraries -/

@[simp] theorem mem_distinct {s : String} {names : List String} :
    s ∈ distinct names ↔ s ∈ names := by
  induction names with
  | nil => simp [distinct]
  | cons t names ih =>
    rw [distinct, List.mem_cons, List.mem_filter, ih, List.mem_cons]
    by_cases h : s = t <;> simp [h]

theorem nodup_distinct (names : List String) : (distinct names).Nodup := by
  induction names with
  | nil => exact List.nodup_nil
  | cons t names ih =>
    rw [distinct, List.nodup_cons]
    exact ⟨by simp, ih.filter _⟩

/-- A library is one in which a file is registered. -/
@[simp] theorem mem_libraries {l : String} : l ∈ c.libraries ↔ ∃ f ∈ c.files, f.library = l := by
  simp [libraries]

theorem nodup_libraries (c : Catalog) : c.libraries.Nodup := nodup_distinct _

@[simp] theorem mem_filesIn {l : String} {f : SourceFile} :
    f ∈ c.filesIn l ↔ f ∈ c.files ∧ f.library = l := by
  simp [filesIn]

/-- **A library is found under its own name.** -/
theorem Registered.filesFor_eq_filesIn (hc : c.Registered) {l : String} (hl : l ∈ c.libraries) :
    c.filesFor l = c.filesIn l := by
  obtain ⟨f, hf, rfl⟩ := mem_libraries.mp hl
  rw [filesFor, (hc.library_spec hf).1]

end Catalog

end RtlFlow
