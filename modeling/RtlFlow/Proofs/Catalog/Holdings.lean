import RtlFlow.Catalog.Holdings
import RtlFlow.Proofs.Catalog.Registration
import RtlFlow.Proofs.Table
import RtlFlow.Proofs.Text.Trimming

/-! # What a catalog stores

The libraries, the index and the order of a stored catalog are told by the list of its files: the
libraries are those of the files, each with its own ones (`shelves`), the order is that of their
paths, and the index has for each path the place of the file with it. `Represents` says so, every
lookup in holdings that do is the lookup in the list, and a registration keeps it: a file is put
behind those of its library, so no place changes. -/

namespace RtlFlow

open RtlFlow.Text.Unicode

namespace Catalog

variable {c : Catalog} {file : SourceFile}

/-! ## One more file -/

/-- The catalog with one more file behind the others. -/
def add (c : Catalog) (file : SourceFile) : Catalog := { c with files := c.files ++ [file] }

/-- **The libraries of a catalog** with their files. -/
def shelves (c : Catalog) : List Library := c.libraries.map fun name => ⟨name, c.filesIn name⟩

@[simp] theorem length_shelves : c.shelves.length = c.libraries.length := List.length_map ..

/-- The place at which one more file is put: at the end of its library, or in a library of its own
behind the others. -/
def placeFor (c : Catalog) (file : SourceFile) : Place :=
  ⟨c.libraries.idxOf file.library, (c.filesIn file.library).length⟩

theorem distinct_append_singleton (names : List String) (s : String) :
    distinct (names ++ [s]) = if s ∈ names then distinct names else distinct names ++ [s] := by
  induction names with
  | nil => rfl
  | cons t names ih =>
    rw [List.cons_append, distinct, ih, distinct]
    by_cases hs : s ∈ names
    · rw [if_pos hs, if_pos (List.mem_cons_of_mem _ hs)]
    · rw [if_neg hs, List.filter_append]
      by_cases hst : s = t
      · simp [hst]
      · simp [hst, hs]

theorem eraseDups_append_singleton {α : Type} [DecidableEq α] (xs : List α) (x : α) :
    (xs ++ [x]).eraseDups = if x ∈ xs then xs.eraseDups else xs.eraseDups ++ [x] := by
  rw [List.eraseDups_append]
  split
  · rename_i hx
    simp [List.removeAll, hx]
  · rename_i hx
    simp [List.removeAll, hx, List.eraseDups_cons]

theorem filesIn_add (k : String) :
    (c.add file).filesIn k = c.filesIn k ++ if file.library = k then [file] else [] := by
  unfold filesIn add
  rw [List.filter_append]
  by_cases h : file.library = k <;> simp [h]

theorem filesIn_eq_nil {k : String} (h : k ∉ c.libraries) : c.filesIn k = [] := by
  rw [filesIn, List.filter_eq_nil_iff]
  intro f hf hk
  exact h (mem_libraries.mpr ⟨f, hf, by simpa using hk⟩)

theorem libraries_add : (c.add file).libraries =
    if file.library ∈ c.libraries then c.libraries else c.libraries ++ [file.library] := by
  unfold libraries add
  rw [List.map_append, List.map_singleton, distinct_append_singleton]
  simp only [mem_distinct]

/-- A library that is there gets the file at its end. -/
theorem shelves_add_of_mem (h : file.library ∈ c.libraries) :
    (c.add file).shelves = c.shelves.set (c.placeFor file).library
      ⟨file.library, c.filesIn file.library ++ [file]⟩ := by
  have hlt : c.libraries.idxOf file.library < c.libraries.length := List.idxOf_lt_length_of_mem h
  unfold shelves placeFor
  rw [libraries_add, if_pos h]
  refine List.ext_getElem? fun i => ?_
  rw [List.getElem?_set, List.length_map, if_pos hlt, List.getElem?_map, List.getElem?_map]
  by_cases hi : c.libraries.idxOf file.library = i
  · rw [if_pos hi, ← hi, List.getElem?_idxOf h, Option.map_some, filesIn_add, if_pos rfl]
  · rw [if_neg hi]
    -- the other libraries have other names
    refine Option.map_congr fun k hk => ?_
    have hne : file.library ≠ k := by
      obtain ⟨hlt, rfl⟩ := List.getElem?_eq_some_iff.mp hk
      intro heq
      exact hi (heq ▸ List.Nodup.idxOf_getElem c.nodup_libraries i hlt)
    rw [filesIn_add, if_neg hne, List.append_nil]

/-- A library that is not there is put behind the others. -/
theorem shelves_add_of_notMem (h : file.library ∉ c.libraries) :
    (c.add file).shelves = c.shelves ++ [⟨file.library, [file]⟩] := by
  unfold shelves
  rw [libraries_add, if_neg h, List.map_append, List.map_singleton, filesIn_add, if_pos rfl,
    filesIn_eq_nil h, List.nil_append]
  congr 1
  refine List.map_congr_left fun k hk => ?_
  have hne : file.library ≠ k := fun heq => h (heq ▸ hk)
  rw [filesIn_add, if_neg hne, List.append_nil]

/-! ## The files of a catalog that was built -/

/-- A library name is trimmed. -/
theorem Registered.trim_library (hc : c.Registered) {f : SourceFile} (hf : f ∈ c.files) :
    Text.trim f.library = f.library := by
  induction hc with
  | empty => simp [Catalog.empty] at hf
  | register hc p library a h ih =>
    rcases register_eq_ok h with rfl | ⟨file, rfl, -, -, hlib, -⟩
    · exact ih hf
    · rcases List.mem_append.mp hf with hf | hf
      · exact ih hf
      · obtain rfl := List.mem_singleton.mp hf
        rw [hlib, Text.trim_lowercase_trim]
  | addConstraints _ _ _ ih => exact ih hf
  | addGeneric _ _ _ ih => exact ih hf

/-- The files of the libraries are the files of the catalog. -/
theorem Registered.perm_shelves (hc : c.Registered) :
    c.files.Perm (c.shelves.flatMap (·.files)) := by
  have hnodup : (c.shelves.flatMap (·.files)).Nodup := by
    rw [shelves, List.flatMap_map, List.nodup_flatMap]
    refine ⟨fun name _ => hc.nodup_filesIn name, ?_⟩
    refine c.nodup_libraries.imp fun {k l} hne f hf hf' => hne ?_
    rw [← (mem_filesIn.mp hf).2, ← (mem_filesIn.mp hf').2]
  rw [List.perm_ext_iff_of_nodup hc.nodup_files hnodup]
  intro f
  rw [shelves, List.flatMap_map, List.mem_flatMap]
  constructor
  · exact fun hf => ⟨f.library, mem_libraries.mpr ⟨f, hf, rfl⟩, mem_filesIn.mpr ⟨hf, rfl⟩⟩
  · rintro ⟨k, -, hf⟩
    exact (mem_filesIn.mp hf).1

/-- The file with a path is the one of that path. -/
theorem Registered.file?_eq_some_iff (hc : c.Registered) {p : Path} {f : SourceFile} :
    c.file? p = some f ↔ f ∈ c.files ∧ f.path = c.resolvePath p := by
  refine ⟨path_of_file?, fun ⟨hf, hpath⟩ => ?_⟩
  cases hfile : c.file? p with
  | none =>
    have hnot := List.find?_eq_none.mp hfile f hf
    simp [hpath] at hnot
  | some g =>
    obtain ⟨hg, hpath'⟩ := path_of_file? hfile
    rw [hc.eq_of_same_path hf hg (by simp [hpath, hpath'])]

end Catalog

namespace Holdings

open Catalog (shelves placeFor)

variable {h h' : Holdings} {c : Catalog} {file : SourceFile}

/-! ## Places -/

/-- The file at a place of a catalog. -/
theorem fileAt?_eq (hlib : h.libraries = c.shelves) (q : Place) :
    h.fileAt? q = c.libraries[q.library]?.bind fun k => (c.filesIn k)[q.file]? := by
  rw [fileAt?, hlib, shelves, List.getElem?_map, Option.bind_map]
  rfl

/-- The library of the next file holds the files with that library, whether it is there or not. -/
theorem fileAt?_placeFor_library (hlib : h.libraries = c.shelves) (file : SourceFile) (i : Nat) :
    h.fileAt? ⟨(c.placeFor file).library, i⟩ = (c.filesIn file.library)[i]? := by
  rw [fileAt?_eq hlib, placeFor]
  by_cases hmem : file.library ∈ c.libraries
  · rw [List.getElem?_idxOf hmem]
    rfl
  · rw [List.idxOf_eq_length hmem, List.getElem?_eq_none le_rfl, Catalog.filesIn_eq_nil hmem]
    rfl

/-- **No file is moved when one more is put into its place.** -/
theorem fileAt?_add (hlib : h.libraries = c.shelves) (hlib' : h'.libraries = (c.add file).shelves)
    (q : Place) : h'.fileAt? q = if q = c.placeFor file then some file else h.fileAt? q := by
  obtain ⟨l, i⟩ := q
  by_cases hl : l = (c.placeFor file).library
  · -- in its library the file stands behind the others
    subst hl
    have hplace : (c.placeFor file).library = ((c.add file).placeFor file).library := by
      unfold placeFor
      rw [Catalog.libraries_add]
      split
      · rfl
      · rename_i hmem
        rw [List.idxOf_append_of_notMem hmem, List.idxOf_cons_self, List.idxOf_eq_length hmem,
          Nat.add_zero]
    have hiff : (⟨(c.placeFor file).library, i⟩ : Place) = c.placeFor file ↔
        i = (c.filesIn file.library).length := by
      rw [Place.mk.injEq]
      exact and_iff_right rfl
    rw [fileAt?_placeFor_library hlib, hplace, fileAt?_placeFor_library hlib', ← hplace,
      Catalog.filesIn_add, if_pos rfl, List.getElem?_append]
    simp only [hiff]
    rcases Nat.lt_trichotomy i (c.filesIn file.library).length with hlt | rfl | hgt
    · rw [if_pos hlt, if_neg hlt.ne]
    · simp
    · have hbehind : [file].length ≤ i - (c.filesIn file.library).length := by
        rw [List.length_singleton]
        omega
      rw [if_neg (by omega), if_neg (by omega), List.getElem?_eq_none hbehind,
        List.getElem?_eq_none hgt.le]
  · have hne : (⟨l, i⟩ : Place) ≠ c.placeFor file := fun heq => hl (congrArg Place.library heq)
    rw [if_neg hne, fileAt?_eq hlib, fileAt?_eq hlib']
    dsimp only
    have hsame : (c.add file).libraries[l]? = c.libraries[l]? := by
      rw [Catalog.libraries_add]
      split
      · rfl
      · rename_i hmem
        rw [placeFor, List.idxOf_eq_length hmem] at hl
        dsimp only at hl
        rw [List.getElem?_append]
        split
        · rfl
        · have hbehind : [file.library].length ≤ l - c.libraries.length := by
            rw [List.length_singleton]
            omega
          rw [List.getElem?_eq_none hbehind, List.getElem?_eq_none (by omega)]
    rw [hsame]
    refine Option.bind_congr fun k hk => ?_
    have hk' : file.library ≠ k := by
      obtain ⟨hlt, rfl⟩ := List.getElem?_eq_some_iff.mp hk
      intro heq
      rw [placeFor, heq] at hl
      exact hl (List.Nodup.idxOf_getElem c.nodup_libraries l hlt).symm
    rw [Catalog.filesIn_add, if_neg hk', List.append_nil]

/-! ## Rules of actions -/

section Perform

variable {α β : Type}

@[simp] theorem perform_pure (x : α) : h.perform (pure x) = some (.ok x, h) := rfl

@[simp] theorem perform_throw (e : CatalogError) :
    h.perform (throw e : Action α) = some (.error e, h) := rfl

@[simp] theorem perform_throw_bind (e : CatalogError) (next : α → Action β) :
    h.perform ((throw e : Action α) >>= next) = some (.error e, h) := rfl

@[simp] theorem perform_get_bind (next : Holdings → Action α) :
    h.perform (get >>= next) = h.perform (next h) := rfl

@[simp] theorem perform_some_bind (x : α) (next : α → Action β) :
    h.perform ((liftM (some x) : Action α) >>= next) = h.perform (next x) := rfl

@[simp] theorem perform_set (x : Holdings) : h.perform (set x) = some (.ok (), x) := rfl

@[simp] theorem perform_modify (change : Holdings → Holdings) :
    h.perform (modify change) = some (.ok (), change h) := rfl

/-- After an action that ends well the next one goes on with what it left. -/
theorem perform_bind {first : Action α} {x : α} (hfirst : h.perform first = some (.ok x, h'))
    (next : α → Action β) : h.perform (first >>= next) = h'.perform (next x) := by
  unfold perform at hfirst ⊢
  simp [ExceptT.run_bind, hfirst]

end Perform

/-! ## What a registration does to the libraries -/

theorem perform_pushFile {number : Nat} {l : Library} (hl : h.libraries[number]? = some l) :
    h.perform (pushFile number file) = some (.ok ⟨number, l.files.length⟩,
      { h with libraries := h.libraries.set number { l with files := l.files ++ [file] } }) := by
  unfold pushFile
  rw [perform_get_bind, hl]
  rfl

/-- A file of a new path is put into its library, which is opened where there is none. -/
theorem perform_openLibrary (hlib : h.libraries = c.shelves) :
    h.perform (openLibrary file.library >>= fun number => pushFile number file) =
      some (.ok (c.placeFor file), { h with libraries := (c.add file).shelves }) := by
  by_cases hmem : file.library ∈ c.libraries
  · have hfound : (c.shelves.findIdx? fun l => l.name == file.library) =
        some (c.libraries.idxOf file.library) := by
      rw [shelves, List.findIdx?_map]
      exact List.findIdx?_eq_some_of_exists ⟨file.library, hmem, by simp⟩
    have hopen : h.perform (openLibrary file.library) =
        some (.ok (c.libraries.idxOf file.library), h) := by
      rw [openLibrary, perform_get_bind, hlib, hfound]
      rfl
    have hshelf : h.libraries[c.libraries.idxOf file.library]? =
        some ⟨file.library, c.filesIn file.library⟩ := by
      rw [hlib, shelves, List.getElem?_map, List.getElem?_idxOf hmem, Option.map_some]
    rw [perform_bind hopen, perform_pushFile hshelf, Catalog.shelves_add_of_mem hmem, hlib]
    rfl
  · have hfound : (c.shelves.findIdx? fun l => l.name == file.library) = none := by
      rw [shelves, List.findIdx?_map, List.findIdx?_eq_none_iff]
      intro k hk
      simpa using fun heq : k = file.library => hmem (heq ▸ hk)
    have hopen : h.perform (openLibrary file.library) = some (.ok c.libraries.length,
        { h with libraries := c.shelves ++ [⟨file.library, []⟩] }) := by
      rw [openLibrary, perform_get_bind, hlib, hfound]
      dsimp only
      rw [perform_bind (perform_set _), perform_pure, Catalog.length_shelves]
    have hshelf : (c.shelves ++ [⟨file.library, []⟩])[c.libraries.length]? =
        some ⟨file.library, []⟩ := by
      rw [← Catalog.length_shelves, List.getElem?_concat_length]
    rw [perform_bind hopen, perform_pushFile hshelf, Catalog.shelves_add_of_notMem hmem, placeFor,
      List.idxOf_eq_length hmem, Catalog.filesIn_eq_nil hmem, ← Catalog.length_shelves,
      List.set_append_right _ _ le_rfl, Nat.sub_self]
    rfl

/-! ## What is stored for a catalog -/

/-- **Holdings that store a catalog.** -/
structure Represents (h : Holdings) (c : Catalog) : Prop where
  /-- The catalog was built by registration. -/
  registered : c.Registered
  /-- Both have one root. -/
  root : h.root = c.root
  /-- The libraries are those of the catalog, with their files. -/
  libraries : h.libraries = c.shelves
  /-- The paths stand in the order of the files. -/
  order : h.order = c.files.map (·.path)
  /-- The index has the place of the file with a path, and no other place. -/
  place?_iff : ∀ p q, h.place? p = some q ↔ ∃ f, h.fileAt? q = some f ∧ f.path.same p = true
  /-- Both have the same constraints files. -/
  constraints : h.constraints = c.constraints
  /-- Both have the same generics. -/
  generics : h.generics = c.generics

/-- A new catalog is stored as nothing. -/
theorem represents_new (root : Path) : (new root).Represents (.empty root) where
  registered := .empty root
  root := rfl
  libraries := rfl
  order := rfl
  place?_iff p q := by simp [place?, new, Table.get?, fileAt?]
  constraints := rfl
  generics := rfl

namespace Represents

variable (hr : h.Represents c)

include hr

theorem resolvePath_eq (p : Path) : h.resolvePath p = c.resolvePath p := by
  rw [resolvePath, hr.root, Catalog.resolvePath]

theorem fileFor_eq (p : Path) (library : String) (a : SourceAttributes) :
    h.fileFor p library a = c.fileFor p library a := by
  rw [fileFor, hr.resolvePath_eq, Catalog.fileFor]

/-- A file at a place is one of the catalog. -/
theorem mem_of_fileAt? {q : Place} {f : SourceFile} (hf : h.fileAt? q = some f) : f ∈ c.files := by
  rw [fileAt?_eq hr.libraries, Option.bind_eq_some_iff] at hf
  obtain ⟨k, -, hf⟩ := hf
  exact (Catalog.mem_filesIn.mp (List.mem_of_getElem? hf)).1

/-- The index has a place for every file of the catalog. -/
theorem place?_path {f : SourceFile} (hf : f ∈ c.files) :
    ∃ q, h.place? f.path = some q ∧ h.fileAt? q = some f := by
  obtain ⟨i, hi⟩ := List.mem_iff_getElem?.mp (Catalog.mem_filesIn.mpr ⟨hf, rfl⟩)
  have hat := (fileAt?_placeFor_library hr.libraries f i).trans hi
  exact ⟨_, (hr.place?_iff _ _).mpr ⟨f, hat, by simp⟩, hat⟩

/-! ### Reading -/

theorem libraryNames_eq : h.libraryNames = c.libraries := by
  rw [libraryNames, hr.libraries, shelves, List.map_map]
  exact List.map_id _

/-- The files of a library are those of the catalog. -/
theorem filesFor_eq (library : String) : h.filesFor library = c.filesFor library := by
  rw [filesFor, hr.libraries, shelves, List.find?_map, Catalog.filesFor]
  cases hfind : c.libraries.find? ((fun l => l.name == lowercase library) ∘
      fun name => (⟨name, c.filesIn name⟩ : Library)) with
  | none =>
    have hnot : lowercase library ∉ c.libraries := fun hmem => by
      simpa using List.find?_eq_none.mp hfind _ hmem
    rw [Catalog.filesIn_eq_nil hnot]
    rfl
  | some name =>
    have hname : name = lowercase library := by simpa using List.find?_some hfind
    rw [← hname]
    rfl

/-- The file with a path is that of the catalog. -/
theorem file?_eq (p : Path) : h.file? p = some (c.file? p) := by
  rw [file?, hr.resolvePath_eq]
  cases hplace : h.place? (c.resolvePath p) with
  | none =>
    cases hfile : c.file? p with
    | none => rfl
    | some f =>
      obtain ⟨hf, hpath⟩ := Catalog.path_of_file? hfile
      obtain ⟨q, hq, -⟩ := hr.place?_path hf
      rw [hpath, hplace] at hq
      cases hq
  | some q =>
    obtain ⟨f, hat, hsame⟩ := (hr.place?_iff _ _).mp hplace
    have hf := hr.mem_of_fileAt? hat
    have hpath : f.path = c.resolvePath p := by
      obtain ⟨r, hr'⟩ := hr.registered.path_normalized hf
      rw [hr', Catalog.resolvePath] at hsame
      rw [hr', Catalog.resolvePath]
      exact Path.normalize_eq_of_same hsame
    rw [hr.registered.file?_eq_some_iff.mpr ⟨hf, hpath⟩]
    show (h.fileAt? q).map some = _
    rw [hat, Option.map_some]

/-- All files are those of the catalog. -/
theorem files_eq : h.files = some c.files := by
  rw [files, hr.order]
  have hall : ∀ fs : List SourceFile, (∀ f ∈ fs, f ∈ c.files) →
      ((fs.map (·.path)).filterMap h.place?).mapM h.fileAt? = some fs := by
    intro fs hfs
    induction fs with
    | nil => rfl
    | cons f fs ih =>
      obtain ⟨hf, hfs⟩ := List.forall_mem_cons.mp hfs
      obtain ⟨q, hplace, hat⟩ := hr.place?_path hf
      rw [List.map_cons, List.filterMap_cons_some hplace, List.mapM_cons, hat, ih hfs]
      rfl
  exact hall c.files fun f hf => hf

theorem size_eq : h.size = c.size := by
  rw [size, hr.order, List.length_map, Catalog.size]

/-! ### Changing -/

/-- **One more file is stored**: behind the files of its library, under its path, and as the last
one. -/
theorem add {file : SourceFile} (hc : (c.add file).Registered)
    (hplace : h.place? file.path = none) (hroot : h'.root = h.root)
    (hlibraries : h'.libraries = (c.add file).shelves)
    (hindex : h'.index = Table.put Path.before file.path (c.placeFor file) h.index)
    (horder : h'.order = h.order ++ [file.path]) (hconstraints : h'.constraints = h.constraints)
    (hgenerics : h'.generics = h.generics) : h'.Represents (c.add file) where
  registered := hc
  root := hroot.trans hr.root
  libraries := hlibraries
  order := by rw [horder, hr.order, Catalog.add, List.map_append, List.map_singleton]
  constraints := hconstraints.trans hr.constraints
  generics := hgenerics.trans hr.generics
  place?_iff p q := by
    have hput := Table.get?_put Path.identifies_before file.path p (c.placeFor file) h.index
    have hat := fileAt?_add hr.libraries hlibraries
    rw [place?, hindex, hput]
    simp only [hat]
    by_cases hp : p.components = file.path.components
    · rw [if_pos hp, Option.some.injEq]
      constructor
      · rintro rfl
        exact ⟨file, if_pos rfl, Path.same_iff.mpr hp.symm⟩
      · rintro ⟨f, hf, hsame⟩
        by_contra hq
        -- the path of the new file would have had a place
        rw [if_neg (Ne.symm hq)] at hf
        have hold := (hr.place?_iff file.path q).mpr
          ⟨f, hf, Path.same_iff.mpr ((Path.same_iff.mp hsame).trans hp)⟩
        rw [hplace] at hold
        cases hold
    · rw [if_neg hp]
      constructor
      · intro hold
        obtain ⟨f, hf, hsame⟩ := (hr.place?_iff p q).mp hold
        have hq : q ≠ c.placeFor file := by
          rintro rfl
          have hfree := fileAt?_placeFor_library hr.libraries file
            (c.filesIn file.library).length
          rw [List.getElem?_eq_none le_rfl] at hfree
          exact absurd (hfree.symm.trans hf) (by simp)
        exact ⟨f, by rw [if_neg hq, hf], hsame⟩
      · rintro ⟨f, hf, hsame⟩
        by_cases hq : q = c.placeFor file
        · rw [if_pos hq, Option.some.injEq] at hf
          rw [← hf] at hsame
          exact absurd (Path.same_iff.mp hsame).symm hp
        · rw [if_neg hq] at hf
          exact (hr.place?_iff p q).mpr ⟨f, hf, hsame⟩

/-- **A registration answers as that of the catalog**; where that fails, nothing is changed. -/
theorem register (p : Path) (library : String) (a : SourceAttributes) :
    (∃ c' h', c.register p library a = .ok c' ∧
      h.perform (Holdings.register p library a) = some (.ok (), h') ∧ h'.Represents c' ∧
        (c' = c → h' = h)) ∨
    ∃ e, c.register p library a = .error e ∧
      h.perform (Holdings.register p library a) = some (.error e, h) := by
  have hregister := Catalog.register_eq c p library a
  have hpath : (c.fileFor p library a).path = c.resolvePath p := Catalog.fileFor_path ..
  have hfile := hr.file?_eq p
  have hnext : ∀ c', c.register p library a = .ok c' → c'.Registered :=
    fun c' => hr.registered.register p library a
  rw [Holdings.register, perform_get_bind, hr.fileFor_eq]
  rw [file?, hr.resolvePath_eq] at hfile
  generalize c.fileFor p library a = file at hregister hpath hfile ⊢
  rw [hregister] at hnext ⊢
  rw [← hpath] at hfile hnext ⊢
  dsimp only
  by_cases hempty : file.library.isEmpty
  · right
    exact ⟨_, if_pos hempty, by rw [if_pos hempty, perform_throw_bind]⟩
  · rw [if_neg hempty] at hnext ⊢
    rw [if_neg hempty, perform_get_bind]
    cases hplace : h.place? file.path with
    | some place =>
      -- the file that is there decides
      rw [hplace] at hfile
      obtain ⟨existing, hat, hfound⟩ := Option.map_eq_some_iff.mp hfile
      rw [← hfound] at hnext ⊢
      dsimp only at hnext ⊢
      rw [perform_get_bind, hat, perform_some_bind]
      by_cases hsame : existing.same file
      · left
        exact ⟨c, h, if_pos hsame, by rw [if_pos hsame, perform_pure], hr, fun _ => rfl⟩
      · right
        exact ⟨_, if_neg hsame, by rw [if_neg hsame, perform_throw]⟩
    | none =>
      rw [hplace, Option.some.injEq] at hfile
      rw [← hfile] at hnext ⊢
      dsimp only at hnext ⊢
      left
      refine ⟨c.add file,
        { h with
          libraries := (c.add file).shelves
          index := Table.put Path.before file.path (c.placeFor file) h.index
          order := h.order ++ [file.path] }, rfl, ?_,
        hr.add (hnext _ rfl) hplace rfl rfl rfl rfl rfl rfl, fun heq => ?_⟩
      · rw [← bind_assoc, perform_bind (perform_openLibrary hr.libraries),
          perform_bind (perform_modify _), perform_modify]
      · have hfiles : c.files ++ [file] = c.files := congrArg Catalog.files heq
        simp at hfiles

/-- **A file that was registered is found by its path**, as it was given, unless it was there before
and is equal to the given one. -/
theorem file?_of_register {p : Path} {library : String} {a : SourceAttributes}
    (hok : h.perform (Holdings.register p library a) = some (.ok (), h')) :
    ∃ f, h'.file? p = some (some f) ∧
      (f = h.fileFor p library a ∨ h' = h ∧ f.same (h.fileFor p library a) = true) := by
  rcases hr.register p library a with ⟨c', h'', hregister, hperform, hr', hsame⟩ | ⟨e, -, hperform⟩
  · obtain rfl : h'' = h' := by simpa [hok] using hperform.symm
    obtain ⟨f, hf, hcase⟩ := Catalog.file?_of_register hregister
    rw [hr.fileFor_eq]
    exact ⟨f, by rw [hr'.file?_eq, hf], hcase.imp_right fun hold => ⟨hsame hold.1, hold.2⟩⟩
  · simp [hok] at hperform

/-- One more constraints file is stored. -/
theorem addConstraints (p : Path) (flow : Option String) :
    Represents
      { h with constraints := h.constraints ++
          [⟨h.resolvePath p, FileKind.ofPath (h.resolvePath p), flow.map lowercase⟩] }
      (c.addConstraints p flow) where
  registered := hr.registered.addConstraints p flow
  root := hr.root
  libraries := hr.libraries
  order := hr.order
  place?_iff := hr.place?_iff
  constraints := by
    dsimp only
    rw [hr.constraints, hr.resolvePath_eq, Catalog.addConstraints]
  generics := hr.generics

/-- One more generic is stored. -/
theorem addGeneric (name : String) (value : GenericValue) :
    Represents { h with generics := h.generics.insert name value } (c.addGeneric name value) where
  registered := hr.registered.addGeneric name value
  root := hr.root
  libraries := hr.libraries
  order := hr.order
  place?_iff := hr.place?_iff
  constraints := hr.constraints
  generics := by
    dsimp only
    rw [hr.generics, Catalog.addGeneric]

end Represents

end Holdings

end RtlFlow
