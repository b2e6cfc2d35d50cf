import RtlFlow.Proofs.Catalog.Registration
import RtlFlow.Proofs.Plan.LocalOrder

/-! # The compile order of a catalog

What a build plan owes to the catalog and the facts from which it is made is the structure
`CompileOrder`: the plan shares out the files of the catalog by library, a library stands behind
every library that one of its files needs, and inside a library a file stands behind the files to
which it refers. `resolveWith_spec` shows that every plan is such an order, and that there is none
exactly when libraries need each other in a ring. -/

namespace RtlFlow.Catalog

open DependencyGraph

/-- A file **needs a library**: it is hinted to need it, or the facts about the file name it and it
is neither the alias of the own library nor one that is always there. -/
def Needs (facts : FactTable) (f : SourceFile) (l : String) : Prop :=
  l ∈ f.dependsOn ∨ ∃ h, facts.about? f.path = some h ∧ h.NamesLibrary l ∧
    l ≠ HdlFacts.workLibrary ∧ l ∉ HdlFacts.builtinLibraries

/-- **A library of the catalog needs another one** of it, because one of its files does. -/
def LibraryNeeds (c : Catalog) (facts : FactTable) (a b : String) : Prop :=
  a ≠ b ∧ b ∈ c.libraries ∧ ∃ f ∈ c.files, f.library = a ∧ Needs facts f b

/-- **A plan that puts the files of a catalog in compile order.** -/
structure CompileOrder (c : Catalog) (facts : FactTable) (plan : BuildPlan) : Prop where
  /-- No library has two units. -/
  nodup_libraries : plan.libraries.Nodup
  /-- Every library in which a file is registered has a unit, and no other. -/
  mem_libraries : ∀ l, l ∈ plan.libraries ↔ ∃ f ∈ c.files, f.library = l
  /-- The files are those of the catalog. -/
  perm_files : plan.files.Perm c.files
  /-- No file stands twice. -/
  nodup_paths : (plan.files.map (·.path)).Nodup
  /-- A file stands in the unit of its own library. -/
  own_library : ∀ u ∈ plan.units, ∀ f ∈ u.files, f.library = u.library
  /-- A file stands behind all files of the other libraries that it needs. -/
  library_first : ∀ f ∈ c.files, ∀ g ∈ c.files, g.library ≠ f.library → Needs facts f g.library →
    plan.files.idxOf g < plan.files.idxOf f
  /-- A file stands behind the files of its library to which it refers, where there is no ring. -/
  provider_first : ∀ l, ¬ Cyclic (LocalReference facts l (c.filesIn l)) →
    ∀ f g, LocalReference facts l (c.filesIn l) f g → plan.files.idxOf g < plan.files.idxOf f
  /-- A library with a ring keeps the order of registration. -/
  declared : ∀ l ∈ c.libraries, Cyclic (LocalReference facts l (c.filesIn l)) →
    ⟨l, c.filesIn l⟩ ∈ plan.units

variable {c : Catalog} {facts : FactTable}

/-! ## The graph of the libraries -/

theorem mem_neededLibraries {f : SourceFile} {l : String} (hl : l ≠ f.library) :
    l ∈ neededLibraries facts f ↔ Needs facts f l := by
  unfold neededLibraries Needs
  rw [List.mem_append, or_comm]
  cases facts.about? f.path with
  | none => simp
  | some h => simp [HdlFacts.mem_requiredLibraries, hl]

/-- **The graph of the libraries holds the needs of the libraries.** -/
theorem libraryGraph_extends (c : Catalog) (facts : FactTable) :
    (⟨c.libraries, []⟩ : DependencyGraph String).Extends (c.libraryGraph facts)
      (c.LibraryNeeds facts) := by
  unfold libraryGraph
  simp only
  rw [foldl_addNode_empty c.nodup_libraries]
  refine (foldl_extends (fun f a b => a = f.library ∧ a ≠ b ∧ b ∈ c.libraries ∧ Needs facts f b)
    c.files (wellFormed_of_nodup c.nodup_libraries) ?_).congr ?_
  · -- one file adds the needs of its library, library by library
    intro g f hf hwf hnodes
    have hown : f.library ∈ c.libraries := Catalog.mem_libraries.mpr ⟨f, hf, rfl⟩
    refine (foldl_extends (fun l a b => l = b ∧ a = f.library ∧ a ≠ b ∧ b ∈ c.libraries)
      (neededLibraries facts f) hwf ?_).congr ?_
    · intro g' l _ hwf' hnodes'
      rw [hnodes] at hnodes'
      split
      · rename_i hl
        have hmem : ∀ k, k ∈ c.libraries → k ∈ g'.nodes := fun k hk => hnodes' ▸ hk
        refine (addDependency_extends hwf' (hmem _ hown) (hmem _ hl.2)).congr fun a b => ?_
        constructor
        · rintro ⟨rfl, rfl, hne⟩
          exact ⟨rfl, rfl, hne, hl.2⟩
        · rintro ⟨rfl, rfl, hne, -⟩
          exact ⟨rfl, rfl, hne⟩
      · -- the own library and those that nobody has registered add nothing
        rename_i hl
        refine (extends_self hwf').congr fun a b => ⟨False.elim, ?_⟩
        rintro ⟨rfl, rfl, hne, hb⟩
        exact hl ⟨hne.symm, hb⟩
    · intro a b
      constructor
      · rintro ⟨l, hl, rfl, rfl, hne, hb⟩
        exact ⟨rfl, hne, hb, (mem_neededLibraries hne.symm).mp hl⟩
      · rintro ⟨rfl, hne, hb, hneeds⟩
        exact ⟨b, (mem_neededLibraries hne.symm).mpr hneeds, rfl, rfl, hne, hb⟩
  · intro a b
    constructor
    · rintro ⟨f, hf, rfl, hne, hb, hneeds⟩
      exact ⟨hne, hb, f, hf, rfl, hneeds⟩
    · rintro ⟨hne, hb, f, hf, rfl, hneeds⟩
      exact ⟨f, hf, rfl, hne, hb, hneeds⟩

/-- The graph of the libraries requires what the libraries need. -/
theorem requires_libraryGraph {a b : String} :
    (c.libraryGraph facts).Requires a b ↔ c.LibraryNeeds facts a b := by
  rw [(libraryGraph_extends c facts).requires]
  simp [not_requires_of_edges]

/-! ## Units one behind the other -/

section Blocks

variable {κ : Type} [DecidableEq κ] {keys : List κ} {block : κ → List SourceFile}

/-- A key at its place among the keys. -/
theorem exists_split (hkeys : keys.Nodup) {k : κ} (hk : k ∈ keys) :
    ∃ before after, keys = before ++ k :: after ∧ k ∉ before ∧
      ∀ l, keys.idxOf l < keys.idxOf k → l ∈ before := by
  obtain ⟨before, after, rfl⟩ := List.append_of_mem hk
  have hnot : k ∉ before := fun h =>
    (List.nodup_append.mp hkeys).2.2 k h k (List.mem_cons_self ..) rfl
  refine ⟨before, after, rfl, hnot, fun l hl => ?_⟩
  rw [List.idxOf_append_of_notMem hnot, List.idxOf_cons_self, Nat.add_zero] at hl
  by_contra hl'
  rw [List.idxOf_append_of_notMem hl'] at hl
  omega

/-- A file of an earlier block stands before a file of a later one. -/
theorem idxOf_flatMap_lt (key : SourceFile → κ) (hkeys : keys.Nodup)
    (hblock : ∀ k, ∀ f ∈ block k, key f = k) {f g : SourceFile} (hf : key f ∈ keys)
    (hg : g ∈ block (key g))
    (hlt : keys.idxOf (key g) < keys.idxOf (key f)) :
    (keys.flatMap block).idxOf g < (keys.flatMap block).idxOf f := by
  obtain ⟨before, after, rfl, hnot, hbefore⟩ := exists_split hkeys hf
  have hgmem : g ∈ before.flatMap block := List.mem_flatMap.mpr ⟨key g, hbefore _ hlt, hg⟩
  have hfnot : f ∉ before.flatMap block := by
    intro hmem
    obtain ⟨k, hk, hfk⟩ := List.mem_flatMap.mp hmem
    exact hnot (hblock k f hfk ▸ hk)
  -- what stands in front of the block of `f` holds `g` and not `f`
  rw [List.flatMap_append, List.idxOf_append_of_mem hgmem, List.idxOf_append_of_notMem hfnot]
  exact Nat.lt_add_right _ (List.idxOf_lt_length_iff.mpr hgmem)

/-- Files of one block stand as they stand in the block. -/
theorem idxOf_flatMap_lt_of_block (key : SourceFile → κ) (hkeys : keys.Nodup)
    (hblock : ∀ k, ∀ f ∈ block k, key f = k) {k : κ} (hk : k ∈ keys) {f g : SourceFile}
    (hf : f ∈ block k) (hg : g ∈ block k)
    (hlt : (block k).idxOf g < (block k).idxOf f) :
    (keys.flatMap block).idxOf g < (keys.flatMap block).idxOf f := by
  obtain ⟨before, after, rfl, hnot, -⟩ := exists_split hkeys hk
  have hout : ∀ h ∈ block k, h ∉ before.flatMap block := by
    intro h hh hmem
    obtain ⟨l, hl, hhl⟩ := List.mem_flatMap.mp hmem
    exact hnot ((hblock k h hh).symm.trans (hblock l h hhl) ▸ hl)
  rw [List.flatMap_append, List.flatMap_cons, List.idxOf_append_of_notMem (hout g hg),
    List.idxOf_append_of_notMem (hout f hf), List.idxOf_append_of_mem hg,
    List.idxOf_append_of_mem hf]
  exact Nat.add_lt_add_left hlt _

end Blocks

/-! ## The plan -/

/-- **The plan in which libraries stand in an order**, each with its files in order. -/
def planOf (c : Catalog) (facts : FactTable) (libraries : List String) : BuildPlan :=
  ⟨libraries.map fun l => ⟨l, orderFiles facts l (c.filesIn l)⟩⟩

@[simp] theorem libraries_planOf (c : Catalog) (facts : FactTable) (libraries : List String) :
    (c.planOf facts libraries).libraries = libraries := by
  simp [planOf, BuildPlan.libraries, Function.comp_def]

@[simp] theorem files_planOf (c : Catalog) (facts : FactTable) (libraries : List String) :
    (c.planOf facts libraries).files =
      libraries.flatMap fun l => orderFiles facts l (c.filesIn l) := by
  simp [planOf, BuildPlan.files, List.flatMap_map]

/-- **A registered catalog has a plan** when its libraries can be sorted, and then it is the one in
which they stand in that order. -/
theorem Registered.resolveWith_eq_ok_iff (hc : c.Registered) {plan : BuildPlan} :
    c.resolveWith facts = .ok plan ↔
      ∃ libraries, (c.libraryGraph facts).sort = .ok libraries ∧
        plan = c.planOf facts libraries := by
  have hunits {libraries : List String} (hsort : (c.libraryGraph facts).sort = .ok libraries) :
      (⟨libraries.map fun l => ⟨l, orderFiles facts l (c.filesFor l)⟩⟩ : BuildPlan) =
        c.planOf facts libraries := by
    have hgraph := libraryGraph_extends c facts
    have hperm := (sort_eq_ok hgraph.wellFormed hsort).1
    rw [hgraph.nodes] at hperm
    -- every library is found under its own name
    refine congrArg BuildPlan.mk (List.map_congr_left fun l hl => ?_)
    rw [hc.filesFor_eq_filesIn (hperm.mem_iff.mp hl)]
  unfold resolveWith
  cases hsort : (c.libraryGraph facts).sort with
  | error ring => simp
  | ok libraries =>
    dsimp only
    rw [hunits hsort]
    simp [eq_comm]

/-- **A plan of a registered catalog** has its libraries in an order in which each stands behind
those that it needs. -/
theorem Registered.exists_planOf_eq (hc : c.Registered) {plan : BuildPlan}
    (h : c.resolveWith facts = .ok plan) :
    ∃ libraries, libraries.Perm c.libraries ∧
      (∀ a b, c.LibraryNeeds facts a b → libraries.idxOf b < libraries.idxOf a) ∧
      plan = c.planOf facts libraries := by
  obtain ⟨libraries, hsort, hplan⟩ := hc.resolveWith_eq_ok_iff.mp h
  have hgraph := libraryGraph_extends c facts
  obtain ⟨hperm, hbefore⟩ := sort_eq_ok hgraph.wellFormed hsort
  rw [hgraph.nodes] at hperm
  exact ⟨libraries, hperm, fun a b hneeds => hbefore a b (requires_libraryGraph.mpr hneeds), hplan⟩

/-- A file stands in order in its library exactly when it is registered in it. -/
theorem mem_orderFiles_filesIn {l : String} {f : SourceFile} :
    f ∈ orderFiles facts l (c.filesIn l) ↔ f ∈ c.files ∧ f.library = l := by
  rw [(orderFiles_perm facts l (c.filesIn l)).mem_iff, mem_filesIn]

theorem library_of_mem_orderFiles (l : String) :
    ∀ f ∈ orderFiles facts l (c.filesIn l), f.library = l := fun _ hf =>
  (mem_orderFiles_filesIn.mp hf).2

/-- **The libraries share out the files**, in whatever order they stand. -/
theorem Registered.perm_flatMap_orderFiles (hc : c.Registered) (facts : FactTable)
    {libraries : List String} (hperm : libraries.Perm c.libraries) :
    (libraries.flatMap fun l => orderFiles facts l (c.filesIn l)).Perm c.files := by
  have hnodup : libraries.Nodup := hperm.nodup_iff.mpr c.nodup_libraries
  refine (List.perm_ext_iff_of_nodup ?_ hc.nodup_files).mpr fun f => ?_
  · refine List.nodup_flatMap.mpr ⟨fun l _ =>
      (orderFiles_perm _ _ _).nodup_iff.mpr (hc.nodup_filesIn l), hnodup.imp ?_⟩
    intro a b hab f hfa hfb
    exact hab ((library_of_mem_orderFiles a f hfa).symm.trans (library_of_mem_orderFiles b f hfb))
  · rw [List.mem_flatMap]
    constructor
    · rintro ⟨l, -, hf⟩
      exact (mem_orderFiles_filesIn.mp hf).1
    · intro hf
      exact ⟨f.library, hperm.mem_iff.mpr (Catalog.mem_libraries.mpr ⟨f, hf, rfl⟩),
        mem_orderFiles_filesIn.mpr ⟨hf, rfl⟩⟩

/-- **Every plan of a registered catalog is a compile order.** -/
theorem Registered.compileOrder (hc : c.Registered) {plan : BuildPlan}
    (h : c.resolveWith facts = .ok plan) : c.CompileOrder facts plan := by
  obtain ⟨libraries, hperm, hbefore, rfl⟩ := hc.exists_planOf_eq h
  have hnodup : libraries.Nodup := hperm.nodup_iff.mpr c.nodup_libraries
  have hmem : ∀ l, l ∈ libraries ↔ ∃ f ∈ c.files, f.library = l := fun l =>
    hperm.mem_iff.trans Catalog.mem_libraries
  have hfiles := hc.perm_flatMap_orderFiles facts hperm
  constructor
  · rwa [libraries_planOf]
  · rwa [libraries_planOf]
  · rwa [files_planOf]
  · rw [files_planOf]
    exact (hfiles.map _).nodup_iff.mpr hc.nodup_paths
  · intro u hu f hf
    obtain ⟨l, -, rfl⟩ := List.mem_map.mp hu
    exact library_of_mem_orderFiles l f hf
  · intro f hf g hg hne hneeds
    rw [files_planOf]
    refine idxOf_flatMap_lt (·.library) hnodup library_of_mem_orderFiles
      ((hmem _).mpr ⟨f, hf, rfl⟩) (mem_orderFiles_filesIn.mpr ⟨hg, rfl⟩) (hbefore _ _ ?_)
    exact ⟨hne.symm, Catalog.mem_libraries.mpr ⟨g, hg, rfl⟩, f, hf, rfl, hneeds⟩
  · intro l hacyclic f g href
    rw [files_planOf]
    have hf := mem_filesIn.mp href.1
    refine idxOf_flatMap_lt_of_block (·.library) hnodup library_of_mem_orderFiles
      ((hmem l).mpr ⟨f, hf⟩) (mem_orderFiles_filesIn.mpr hf)
      (mem_orderFiles_filesIn.mpr (mem_filesIn.mp href.mem)) ?_
    exact idxOf_orderFiles_lt (hc.nodup_filesIn l) hacyclic href
  · intro l hl hcyclic
    refine List.mem_map.mpr ⟨l, hperm.mem_iff.mpr hl, ?_⟩
    rw [orderFiles_of_cyclic (hc.nodup_filesIn l) hcyclic]

/-- **A catalog has no plan exactly when its libraries need each other in a ring.** -/
theorem resolveWith_eq_error_iff :
    (∃ ring, c.resolveWith facts = .error (.cyclicDependency ring)) ↔
      Cyclic (c.LibraryNeeds facts) := by
  have hgraph := libraryGraph_extends c facts
  have hrequires : (c.libraryGraph facts).Requires = c.LibraryNeeds facts := by
    funext a b
    exact propext requires_libraryGraph
  rw [← hrequires, ← sort_eq_error_iff hgraph.wellFormed]
  unfold resolveWith
  cases (c.libraryGraph facts).sort <;> simp

/-- **Soundness and completeness of the compile order**: every plan of a catalog that was built by
registration is a compile order of it, and there is a plan unless the libraries of the catalog need
each other in a ring, which is the one error that can come of it. -/
theorem resolveWith_spec (hc : c.Registered) (facts : FactTable) :
    (∀ plan, c.resolveWith facts = .ok plan → c.CompileOrder facts plan) ∧
      ((∃ ring, c.resolveWith facts = .error (.cyclicDependency ring)) ↔
        Cyclic (c.LibraryNeeds facts)) ∧
      ((∃ plan, c.resolveWith facts = .ok plan) ↔ ¬ Cyclic (c.LibraryNeeds facts)) := by
  refine ⟨fun plan => hc.compileOrder, resolveWith_eq_error_iff, ?_⟩
  rw [← resolveWith_eq_error_iff]
  unfold resolveWith
  cases (c.libraryGraph facts).sort <;> simp

/-- A catalog whose first file needs the library of the second one. -/
def lateLibrary : Catalog :=
  ⟨⟨"/p"⟩, [⟨⟨"/p/top.vhd"⟩, "work", .vhdl, true, .empty, [], []⟩,
    ⟨⟨"/p/util/pkg.vhd"⟩, "util", .vhdl, true, .empty, [], []⟩], [], .empty⟩

/-- The facts about its first file. -/
def lateLibraryFacts : FactTable := [(⟨"/p/top.vhd"⟩, { libraries := ["util"] })]

/-- The library that was registered last is compiled first. -/
theorem compileOrder_lateLibrary :
    lateLibrary.Registered ∧
      lateLibrary.resolveWith lateLibraryFacts = .ok ⟨[⟨"util", lateLibrary.filesIn "util"⟩,
        ⟨"work", lateLibrary.filesIn "work"⟩]⟩ ∧
      lateLibrary.CompileOrder lateLibraryFacts ⟨[⟨"util", lateLibrary.filesIn "util"⟩,
        ⟨"work", lateLibrary.filesIn "work"⟩]⟩ := by
  have hc : lateLibrary.Registered :=
    .register (.register (.empty ⟨"/p"⟩) ⟨"top.vhd"⟩ "Work" {} rfl) ⟨"util/pkg.vhd"⟩ "util" {} rfl
  have hplan : lateLibrary.resolveWith lateLibraryFacts =
      .ok ⟨[⟨"util", lateLibrary.filesIn "util"⟩, ⟨"work", lateLibrary.filesIn "work"⟩]⟩ := rfl
  exact ⟨hc, hplan, (resolveWith_spec hc lateLibraryFacts).1 _ hplan⟩

end RtlFlow.Catalog
