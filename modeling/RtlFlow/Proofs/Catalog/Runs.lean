import RtlFlow.Proofs.Catalog.Holdings

/-! # Runs of calls to a catalog

Any calls may be made to a new catalog, and those that fail are followed by others. What is stored
after them is told by the calls that were answered well (`answers_spec`), and the file of a
registration that was is found whatever is called after it (`exists_file?_answers`). -/

namespace RtlFlow

open RtlFlow.Text.Unicode

/-- What a call makes of a catalog. -/
def Holdings.Call.on : Holdings.Call → Catalog → Except CatalogError Catalog
  | .register p library a, c => c.register p library a
  | .registerDefault p a, c => c.register p Catalog.defaultLibrary a
  | .addConstraints p flow, c => .ok (c.addConstraints p flow)
  | .addGeneric name value, c => .ok (c.addGeneric name value)

/-- A call that **registers a file** under a path, in a library that is named by the text. -/
def Holdings.Call.Registers (call : Holdings.Call) (p : Path) (library : String)
    (a : SourceAttributes) : Prop :=
  call = .register p library a ∨ call = .registerDefault p a ∧ library = Catalog.defaultLibrary

namespace Catalog

open Holdings (Call)

variable {c c' : Catalog} {past : List (Path × String)}

/-- **The answers of a catalog to calls in turn**, and the catalog that they leave. -/
def answers (c : Catalog) : List Call → List (Except CatalogError Unit) × Catalog
  | [] => ([], c)
  | call :: rest =>
    match call.on c with
    | .ok c' => (.ok () :: (c'.answers rest).1, (c'.answers rest).2)
    | .error e => (.error e :: (c.answers rest).1, (c.answers rest).2)

/-! ## What the registrations tell -/

/-- **A catalog that was built by registrations**, each with the path and the library of its
file. -/
structure Recounts (c : Catalog) (past : List (Path × String)) : Prop where
  /-- The libraries stand in the order in which they were first named. -/
  libraries : c.libraries = (past.map (·.2)).eraseDups
  /-- The files stand in the order in which their paths were first given. -/
  paths : c.files.map (·.path) = (past.map (·.1)).eraseDups

theorem recounts_empty (root : Path) : (empty root).Recounts [] := ⟨rfl, rfl⟩

/-- **A registration that ends well is the last one told.** -/
theorem Recounts.register (h : c.Recounts past) {p : Path} {library : String}
    {a : SourceAttributes} (hregister : c.register p library a = .ok c') :
    c'.Recounts (past ++ [(c.resolvePath p, lowercase (Text.trim library))]) := by
  rcases register_eq_ok hregister with rfl | ⟨file, rfl, hpath, hnew, hlib, -⟩
  · -- the file is there already, with the path and the library that are given
    obtain ⟨f, hf, hlib, -⟩ := exists_file?_of_register hregister
    obtain ⟨hmem, hpath⟩ := path_of_file? hf
    have hpast : f.library ∈ past.map (·.2) := by
      rw [← List.mem_eraseDups, ← h.libraries]
      exact mem_libraries.mpr ⟨f, hmem, rfl⟩
    have hpast' : f.path ∈ past.map (·.1) := by
      rw [← List.mem_eraseDups, ← h.paths]
      exact List.mem_map_of_mem hmem
    rw [← hlib, ← hpath]
    constructor
    · rw [List.map_append, List.map_singleton, eraseDups_append_singleton, if_pos hpast, h.libraries]
    · rw [List.map_append, List.map_singleton, eraseDups_append_singleton, if_pos hpast', h.paths]
  · rw [← hlib, ← hpath]
    constructor
    · show (c.add file).libraries = _
      rw [libraries_add, h.libraries, List.map_append, List.map_singleton,
        eraseDups_append_singleton]
      simp only [List.mem_eraseDups]
    · have hnot : file.path ∉ past.map (·.1) := by
        rw [← List.mem_eraseDups, ← h.paths]
        intro hmem
        obtain ⟨f, hf, heq⟩ := List.mem_map.mp hmem
        exact hnew f hf heq
      rw [List.map_append, List.map_append, List.map_singleton, List.map_singleton,
        eraseDups_append_singleton, if_neg hnot, h.paths]

theorem root_register {p : Path} {library : String} {a : SourceAttributes}
    (h : c.register p library a = .ok c') : c'.root = c.root := by
  rcases register_eq_ok h with rfl | ⟨file, rfl, -⟩ <;> rfl

/-- The root of a catalog is kept. -/
theorem root_on {call : Call} (h : call.on c = .ok c') : c'.root = c.root := by
  cases call with
  | register p library a =>
    rw [Call.on] at h
    exact root_register h
  | registerDefault p a =>
    rw [Call.on] at h
    exact root_register h
  | addConstraints p flow =>
    obtain rfl := Except.ok.inj h
    rfl
  | addGeneric name value =>
    obtain rfl := Except.ok.inj h
    rfl

/-- The registration that an answered call is, when it is one and was answered well. -/
def told? (root : Path) : Call × Except CatalogError Unit → Option (Path × String)
  | (call, .ok _) => call.registration? root
  | (_, .error _) => none

/-- **The registrations among calls that were answered well**, each with the path and the library of
its file. -/
def registrations (root : Path) (calls : List Call) (answers : List (Except CatalogError Unit)) :
    List (Path × String) := (calls.zip answers).filterMap (told? root)

/-- What a call that is answered well adds to the registrations. -/
theorem Recounts.on (h : c.Recounts past) {call : Call} (hcall : call.on c = .ok c') :
    c'.Recounts (past ++ (call.registration? c.root).toList) := by
  have hresolve : ∀ p, c.resolvePath p = (Holdings.new c.root).resolvePath p := fun p => by
    rw [resolvePath, Holdings.resolvePath, Holdings.new]
  cases call with
  | register p library a =>
    rw [Call.on] at hcall
    rw [Call.registration?, Option.toList_some, ← hresolve]
    exact h.register hcall
  | registerDefault p a =>
    rw [Call.on] at hcall
    rw [Call.registration?, Option.toList_some, ← hresolve]
    exact h.register hcall
  | addConstraints p flow =>
    obtain rfl := Except.ok.inj hcall
    rw [Call.registration?, Option.toList_none, List.append_nil]
    exact ⟨h.libraries, h.paths⟩
  | addGeneric name value =>
    obtain rfl := Except.ok.inj hcall
    rw [Call.registration?, Option.toList_none, List.append_nil]
    exact ⟨h.libraries, h.paths⟩

/-- **The registrations of a run tell its catalog.** -/
theorem Recounts.answers (h : c.Recounts past) (calls : List Call) :
    (c.answers calls).2.Recounts (past ++ registrations c.root calls (c.answers calls).1) := by
  induction calls generalizing c past with
  | nil => simpa [Catalog.answers, registrations] using h
  | cons call rest ih =>
    rw [Catalog.answers]
    cases hcall : call.on c with
    | ok c' =>
      have hrest := ih (h.on hcall)
      rw [root_on hcall, List.append_assoc] at hrest
      have htold : registrations c.root (call :: rest) (.ok () :: (c'.answers rest).1) =
          (call.registration? c.root).toList ++
            registrations c.root rest (c'.answers rest).1 := by
        rw [registrations, registrations, List.zip_cons_cons, List.filterMap_cons, told?]
        cases call.registration? c.root <;> rfl
      dsimp only
      rw [htold]
      exact hrest
    | error e =>
      have htold : registrations c.root (call :: rest) (.error e :: (c.answers rest).1) =
          registrations c.root rest (c.answers rest).1 := by
        rw [registrations, registrations, List.zip_cons_cons, List.filterMap_cons, told?]
      dsimp only
      rw [htold]
      exact ih h

/-! ## What a run leaves of a registration -/

theorem on_of_registers {call : Call} {p : Path} {library : String} {a : SourceAttributes}
    (h : call.Registers p library a) (c : Catalog) : call.on c = c.register p library a := by
  rcases h with rfl | ⟨rfl, rfl⟩
  · rw [Call.on]
  · rw [Call.on]

/-- A call keeps the file with a path. -/
theorem file?_on {call : Call} (hcall : call.on c = .ok c') {p : Path} {f : SourceFile}
    (hf : c.file? p = some f) : c'.file? p = some f := by
  -- a registration puts its file behind the others, so the one that was found is found again
  have hregister : ∀ q library a, c.register q library a = .ok c' → c'.file? p = some f := by
    intro q library a h
    rcases register_eq_ok h with rfl | ⟨file, rfl, -⟩
    · exact hf
    · unfold file? at hf ⊢
      show ((c.files ++ [file]).find? fun f => f.path == c.resolvePath p) = some f
      rw [List.find?_append, hf, Option.some_or]
  cases call with
  | register q library a =>
    rw [Call.on] at hcall
    exact hregister q library a hcall
  | registerDefault q a =>
    rw [Call.on] at hcall
    exact hregister q defaultLibrary a hcall
  | addConstraints q flow =>
    obtain rfl := Except.ok.inj hcall
    exact hf
  | addGeneric name value =>
    obtain rfl := Except.ok.inj hcall
    exact hf

/-- And so do calls in turn. -/
theorem file?_answers {p : Path} {f : SourceFile} (hf : c.file? p = some f) (calls : List Call) :
    (c.answers calls).2.file? p = some f := by
  induction calls generalizing c with
  | nil => exact hf
  | cons call rest ih =>
    rw [answers]
    cases hcall : call.on c with
    | ok c' => exact ih (file?_on hcall hf)
    | error e => exact ih hf

/-- **The file of a registration that was answered well** is found by its path, with the library
and the hints that were given, whatever is called after it. -/
theorem exists_file?_answers {call : Call} {calls : List Call}
    (hcall : (call, .ok ()) ∈ calls.zip (c.answers calls).1) {p : Path} {library : String}
    {a : SourceAttributes} (hregisters : call.Registers p library a) :
    ∃ f, (c.answers calls).2.file? p = some f ∧ f.library = lowercase (Text.trim library) ∧
      f.dependsOn = a.dependsOn := by
  induction calls generalizing c with
  | nil => simp at hcall
  | cons first rest ih =>
    rw [answers] at hcall ⊢
    cases hfirst : first.on c with
    | error e =>
      rw [hfirst, List.zip_cons_cons, List.mem_cons] at hcall
      rcases hcall with hcall | hcall
      · cases congrArg Prod.snd hcall
      · exact ih hcall
    | ok c' =>
      rw [hfirst, List.zip_cons_cons, List.mem_cons] at hcall
      rcases hcall with hcall | hcall
      · -- the registration is the first call, and the others keep its file
        obtain rfl : call = first := congrArg Prod.fst hcall
        rw [on_of_registers hregisters] at hfirst
        obtain ⟨f, hf, hgiven⟩ := exists_file?_of_register hfirst
        exact ⟨f, file?_answers hf rest, hgiven⟩
      · exact ih hcall

end Catalog

namespace Holdings

variable {h : Holdings} {c : Catalog}

/-! ## Runs -/

/-- **A call answers as that of the catalog**; where it fails, nothing is changed. -/
theorem Represents.answer (hr : h.Represents c) (call : Call) :
    (∃ c' h', call.on c = .ok c' ∧ h.answer call = some (.ok (), h') ∧ h'.Represents c') ∨
      ∃ e, call.on c = .error e ∧ h.answer call = some (.error e, h) := by
  cases call with
  | register p library a =>
    rw [Call.on, Holdings.answer, Call.action]
    refine (hr.register p library a).imp_left ?_
    rintro ⟨c', h', hcall, hperform, hr', -⟩
    exact ⟨c', h', hcall, hperform, hr'⟩
  | registerDefault p a =>
    rw [Call.on, Holdings.answer, Call.action, registerDefault]
    refine (hr.register p Catalog.defaultLibrary a).imp_left ?_
    rintro ⟨c', h', hcall, hperform, hr', -⟩
    exact ⟨c', h', hcall, hperform, hr'⟩
  | addConstraints p flow =>
    rw [Call.on, Holdings.answer, Call.action, Holdings.addConstraints, perform_modify]
    exact Or.inl ⟨_, _, rfl, rfl, hr.addConstraints p flow⟩
  | addGeneric name value =>
    rw [Call.on, Holdings.answer, Call.action, Holdings.addGeneric, perform_modify]
    exact Or.inl ⟨_, _, rfl, rfl, hr.addGeneric name value⟩

/-- **Calls in turn answer as those of the catalog.** -/
theorem Represents.answers (hr : h.Represents c) (calls : List Call) :
    ∃ h', h.answers calls = some ((c.answers calls).1, h') ∧
      h'.Represents (c.answers calls).2 := by
  induction calls generalizing h c with
  | nil => exact ⟨h, rfl, hr⟩
  | cons call rest ih =>
    rw [Holdings.answers, Catalog.answers]
    rcases hr.answer call with ⟨c', h', hcall, hanswer, hr'⟩ | ⟨e, hcall, hanswer⟩
    · obtain ⟨h'', hrest, hr''⟩ := ih hr'
      rw [hcall, hanswer]
      refine ⟨h'', ?_, hr''⟩
      simp [hrest]
    · obtain ⟨h'', hrest, hr''⟩ := ih hr
      rw [hcall, hanswer]
      refine ⟨h'', ?_, hr''⟩
      simp [hrest]

/-! ## What is stored after a run -/

/-- **Holdings in order**, after registrations with the paths and libraries `past`: all that is kept
beside the files agrees with them. -/
structure Consistent (h : Holdings) (past : List (Path × String)) : Prop where
  /-- No library name is empty. -/
  name_ne : ∀ name ∈ h.libraryNames, name ≠ ""
  /-- Library names are trimmed. -/
  trim_name : ∀ name ∈ h.libraryNames, Text.trim name = name
  /-- Library names are in lower case. -/
  lowercase_name : ∀ name ∈ h.libraryNames, lowercase name = name
  /-- No two libraries have one name. -/
  nodup_names : h.libraryNames.Nodup
  /-- The libraries stand in the order of the first registrations. -/
  names_eq : h.libraryNames = (past.map (·.2)).eraseDups
  /-- A file stands in its library. -/
  library_eq : ∀ l ∈ h.libraries, ∀ f ∈ l.files, f.library = l.name
  /-- No two files have one path. -/
  paths_ne : (h.libraries.flatMap (·.files)).Pairwise fun f g => f.path.same g.path = false
  /-- The index has the place of the file with a path, and no other place. -/
  place?_iff : ∀ p q, h.place? p = some q ↔ ∃ f, h.fileAt? q = some f ∧ f.path.same p = true
  /-- The paths stand in the order in which they were first given. -/
  order_eq : h.order = (past.map (·.1)).eraseDups
  /-- All lookups are answered, and by one list of files. -/
  files : ∃ files, h.files = some files ∧ files.map (·.path) = h.order ∧ files.length = h.size ∧
    (h.isEmpty = true ↔ files = []) ∧ files.Perm (h.libraries.flatMap (·.files)) ∧
    (∀ p, ∃ found, h.file? p = some found ∧
      ∀ f, found = some f ↔ f ∈ files ∧ f.path = h.resolvePath p) ∧
    ∀ library, h.filesFor library = files.filter fun f => f.library == lowercase library

/-- **What stores a catalog that registrations tell is in order.** -/
theorem Represents.consistent (hr : h.Represents c) {past : List (Path × String)}
    (hpast : c.Recounts past) : h.Consistent past where
  name_ne name hname := by
    rw [hr.libraryNames_eq] at hname
    obtain ⟨f, hf, rfl⟩ := Catalog.mem_libraries.mp hname
    exact (hr.registered.library_spec hf).2
  trim_name name hname := by
    rw [hr.libraryNames_eq] at hname
    obtain ⟨f, hf, rfl⟩ := Catalog.mem_libraries.mp hname
    exact hr.registered.trim_library hf
  lowercase_name name hname := by
    rw [hr.libraryNames_eq] at hname
    obtain ⟨f, hf, rfl⟩ := Catalog.mem_libraries.mp hname
    exact (hr.registered.library_spec hf).1
  nodup_names := by
    rw [hr.libraryNames_eq]
    exact c.nodup_libraries
  names_eq := hr.libraryNames_eq.trans hpast.libraries
  library_eq l hl f hf := by
    rw [hr.libraries, Catalog.shelves] at hl
    obtain ⟨name, -, rfl⟩ := List.mem_map.mp hl
    exact (Catalog.mem_filesIn.mp hf).2
  paths_ne := by
    rw [hr.libraries]
    have hperm := hr.registered.perm_shelves
    refine (hperm.nodup_iff.mp hr.registered.nodup_files).imp_of_mem fun {f g} hf hg hne => ?_
    rw [Bool.eq_false_iff]
    intro hsame
    exact hne (hr.registered.eq_of_same_path (hperm.mem_iff.mpr hf) (hperm.mem_iff.mpr hg) hsame)
  place?_iff := hr.place?_iff
  order_eq := hr.order.trans hpast.paths
  files := by
    refine ⟨c.files, hr.files_eq, hr.order.symm, hr.size_eq.symm, ?_, ?_, fun p => ?_, hr.filesFor_eq⟩
    · rw [isEmpty, hr.order, List.isEmpty_iff, List.map_eq_nil_iff]
    · rw [hr.libraries]
      exact hr.registered.perm_shelves
    · refine ⟨_, hr.file?_eq p, fun f => ?_⟩
      rw [hr.resolvePath_eq]
      exact hr.registered.file?_eq_some_iff

/-- **A catalog stays in order whatever is called**: after any calls to a new catalog all lookups
are answered from one set of files, in libraries with names of their own in lower case, and in the
order of the calls that were answered well; the answers are those of the list of files. A further
call that fails changes nothing, and a file that was registered is found as it was given, or, when
it was there, as one that is equal to it. -/
theorem answers_spec (root : Path) (calls : List Call) :
    ∃ answers h c, (new root).answers calls = some (answers, h) ∧
      (Catalog.empty root).answers calls = (answers, c) ∧ h.Represents c ∧
      h.Consistent (Catalog.registrations root calls answers) ∧
      ∀ call, ∃ x h', h.answer call = some (x, h') ∧ (∀ e, x = .error e → h' = h) ∧
        ∀ p library a, (call = .register p library a ∨
            call = .registerDefault p a ∧ library = Catalog.defaultLibrary) → x = .ok () →
          ∃ f, h'.file? p = some (some f) ∧
            (f = h.fileFor p library a ∨ h' = h ∧ f.same (h.fileFor p library a) = true) := by
  obtain ⟨h, hanswers, hr⟩ := (represents_new root).answers calls
  have hpast := (Catalog.recounts_empty root).answers calls
  refine ⟨_, h, _, hanswers, rfl, hr, hr.consistent hpast, fun call => ?_⟩
  rcases hr.answer call with ⟨c', h', -, hanswer, -⟩ | ⟨e, -, hanswer⟩
  · refine ⟨.ok (), h', hanswer, ?_, ?_⟩
    · intro e he
      cases he
    · intro p library a hcall _
      refine hr.file?_of_register ?_
      rw [← hanswer, Holdings.answer]
      rcases hcall with rfl | ⟨rfl, rfl⟩
      · rw [Call.action]
      · rw [Call.action, registerDefault]
  · refine ⟨.error e, h, hanswer, fun _ _ => rfl, ?_⟩
    intro p library a _ hok
    cases hok

end Holdings

/-- The catalog that calls to a new one leave was built by registration. -/
theorem Catalog.registered_answers (root : Path) (calls : List Holdings.Call) :
    ((Catalog.empty root).answers calls).2.Registered := by
  obtain ⟨_, _, hr⟩ := (Holdings.represents_new root).answers calls
  exact hr.registered

end RtlFlow
