import RtlFlow.Plan.Resolve
import RtlFlow.Proofs.Plan.GraphBuilding
import RtlFlow.Proofs.Vhdl.References

/-! # The order of the files of a library

Inside a library a file refers to the file that provides a unit, and where several files provide
it, to the one that was registered first. `LocalReference` says that without positions and graphs;
`requires_fileGraph` shows that the graph of the library holds exactly this relation. So the files
stand behind the files to which they refer (`idxOf_orderFiles_lt`), unless they refer to each other
in a ring, and then they keep the order of their registration (`orderFiles_of_cyclic`). -/

namespace RtlFlow.Catalog

open DependencyGraph

/-- A file **provides** a unit, by the facts about it. -/
def Provides (facts : FactTable) (f : SourceFile) (unit : String) : Prop :=
  ∃ h, facts.about? f.path = some h ∧ unit ∈ h.providedUnits

/-- **The first file of a list that provides a unit.** -/
def FirstProvider (facts : FactTable) (files : List SourceFile) (unit : String)
    (g : SourceFile) : Prop :=
  ∃ before after, files = before ++ g :: after ∧ Provides facts g unit ∧
    ∀ f ∈ before, ¬ Provides facts f unit

/-- **A file of a library refers to another one**: it names a unit of the library that no file
registered before that one provides. A file that names its own units refers to no other. -/
def LocalReference (facts : FactTable) (library : String) (files : List SourceFile)
    (f g : SourceFile) : Prop :=
  f ∈ files ∧ f ≠ g ∧ ∃ h unit, facts.about? f.path = some h ∧ h.RefersTo library unit ∧
    FirstProvider facts files unit g

variable {facts : FactTable} {library : String} {files : List SourceFile}

/-! ## Providers -/

/-- The units of a file, by the facts about it. -/
def unitsOf (facts : FactTable) (f : SourceFile) : List String :=
  ((facts.about? f.path).map HdlFacts.providedUnits).getD []

theorem mem_unitsOf {f : SourceFile} {unit : String} :
    unit ∈ unitsOf facts f ↔ Provides facts f unit := by
  unfold unitsOf Provides
  cases facts.about? f.path <;> simp

/-- Among the units of one file a unit is found if the file provides it. -/
theorem find?_units (unit : String) (f : SourceFile) (k : Nat) :
    ((unitsOf facts f).map fun u => (u, k)).find? (fun x => x.1 == unit) =
      if unit ∈ unitsOf facts f then some (unit, k) else none := by
  by_cases hmem : unit ∈ unitsOf facts f
  · rw [if_pos hmem, List.find?_map]
    cases hu : (unitsOf facts f).find? ((fun x => x.1 == unit) ∘ fun u => (u, k)) with
    | none =>
      have hne := List.find?_eq_none.mp hu unit hmem
      simp at hne
    | some u =>
      have heq := List.find?_some hu
      simp only [Function.comp_apply, beq_iff_eq] at heq
      simp [heq]
  · rw [if_neg hmem, List.find?_eq_none]
    intro x hx
    obtain ⟨u, hu, rfl⟩ := List.mem_map.mp hx
    simp only [beq_iff_eq]
    rintro rfl
    exact hmem hu

/-- The provider of a unit is found at the position of the first file that provides it. -/
theorem providerOf?_unitProviders (unit : String) :
    providerOf? (unitProviders facts files) unit =
      files.findIdx? fun f => (unitsOf facts f).contains unit := by
  -- the files stand at positions from `k` on, so that the tail is an instance of the claim
  have hfrom : ∀ k, (((files.zipIdx k).flatMap fun x =>
      (unitsOf facts x.1).map fun u => (u, x.2)).find? fun x => x.1 == unit).map (·.2) =
      (files.findIdx? fun f => (unitsOf facts f).contains unit).map (· + k) := by
    induction files with
    | nil => intro k; rfl
    | cons f files ih =>
      intro k
      rw [List.zipIdx_cons, List.flatMap_cons, List.find?_append, List.findIdx?_cons, find?_units]
      by_cases hmem : unit ∈ unitsOf facts f
      · rw [if_pos hmem, if_pos (List.contains_iff_mem.mpr hmem)]
        simp
      · rw [if_neg hmem, Option.none_or, ih, if_neg (mt List.contains_iff_mem.mp hmem),
          Option.map_map]
        congr 1
        funext i
        simp only [Function.comp_apply]
        omega
  have hstart : providerOf? (unitProviders facts files) unit =
      ((files.zipIdx.flatMap fun x => (unitsOf facts x.1).map fun u => (u, x.2)).find?
        fun x => x.1 == unit).map (·.2) := rfl
  rw [hstart, hfrom 0]
  simp

/-- A provider is found exactly where the first file stands that provides the unit. -/
theorem providerOf?_eq_some {unit : String} {j : Nat} :
    providerOf? (unitProviders facts files) unit = some j ↔
      ∃ g, files[j]? = some g ∧ Provides facts g unit ∧
        ∀ f ∈ files.take j, ¬ Provides facts f unit := by
  rw [providerOf?_unitProviders, List.findIdx?_eq_some_iff_getElem]
  simp only [List.contains_iff_mem, mem_unitsOf]
  constructor
  · rintro ⟨hj, hprov, hbefore⟩
    refine ⟨files[j], List.getElem?_eq_getElem hj, hprov, fun f hf => ?_⟩
    obtain ⟨i, hi, rfl⟩ := List.mem_take_iff_getElem.mp hf
    exact hbefore i (by omega)
  · rintro ⟨g, hg, hprov, hbefore⟩
    obtain ⟨hj, rfl⟩ := List.getElem?_eq_some_iff.mp hg
    refine ⟨hj, hprov, fun i hij => hbefore _ ?_⟩
    exact List.mem_take_iff_getElem.mpr ⟨i, by omega, rfl⟩

/-- The first provider of a unit is the file at the position that is found. -/
theorem firstProvider_iff {unit : String} {g : SourceFile} :
    FirstProvider facts files unit g ↔
      ∃ j, files[j]? = some g ∧ providerOf? (unitProviders facts files) unit = some j := by
  constructor
  · rintro ⟨before, after, rfl, hprov, hbefore⟩
    have hget : (before ++ g :: after)[before.length]? = some g := by simp
    exact ⟨before.length, hget, providerOf?_eq_some.mpr ⟨g, hget, hprov, by simpa using hbefore⟩⟩
  · rintro ⟨j, hj, hfound⟩
    obtain ⟨g', hg', hprov, hbefore⟩ := providerOf?_eq_some.mp hfound
    obtain rfl : g' = g := Option.some.inj (hg'.symm.trans hj)
    obtain ⟨hlt, hget⟩ := List.getElem?_eq_some_iff.mp hj
    refine ⟨files.take j, files.drop (j + 1), ?_, hprov, hbefore⟩
    rw [← hget, ← List.drop_eq_getElem_cons hlt, List.take_append_drop]

/-! ## The graph of the files -/

/-- The references of the file at position `i` add the edges from it to the providers that are
found for them. -/
theorem references_extend {g : DependencyGraph Nat} (hwf : g.WellFormed)
    (hnodes : g.nodes = List.range files.length) {i : Nat} (hi : i < files.length)
    (units : List String) :
    g.Extends (units.foldl (fun g unit =>
        match providerOf? (unitProviders facts files) unit with
        | some p => g.addDependency i p
        | none => g) g)
      fun a b => a = i ∧ a ≠ b ∧ ∃ unit ∈ units,
        providerOf? (unitProviders facts files) unit = some b := by
  refine (foldl_extends (fun unit a b =>
    providerOf? (unitProviders facts files) unit = some b ∧ a = i ∧ a ≠ b) units hwf ?_).congr ?_
  · intro g' unit _ hwf' hnodes'
    rw [hnodes] at hnodes'
    cases hp : providerOf? (unitProviders facts files) unit with
    | none => exact (extends_self hwf').congr fun _ _ => by simp
    | some p =>
      obtain ⟨q, hq, -⟩ := providerOf?_eq_some.mp hp
      have hmem : ∀ k, k < files.length → k ∈ g'.nodes := fun k hk =>
        hnodes' ▸ List.mem_range.mpr hk
      refine (addDependency_extends hwf' (hmem i hi)
        (hmem p (List.getElem?_eq_some_iff.mp hq).1)).congr fun a b => ?_
      simp only [Option.some.injEq]
      constructor
      · rintro ⟨rfl, rfl, hne⟩
        exact ⟨rfl, rfl, hne⟩
      · rintro ⟨rfl, rfl, hne⟩
        exact ⟨rfl, rfl, hne⟩
  · intro a b
    constructor
    · rintro ⟨unit, hunit, hp, rfl, hne⟩
      exact ⟨rfl, hne, unit, hunit, hp⟩
    · rintro ⟨rfl, hne, unit, hunit, hp⟩
      exact ⟨unit, hunit, hp, rfl, hne⟩

/-- The graph of the files has an edge from each file to the providers of the units to which it
refers. -/
theorem fileGraph_extends (facts : FactTable) (library : String) (files : List SourceFile) :
    (⟨List.range files.length, []⟩ : DependencyGraph Nat).Extends (fileGraph facts library files)
      fun i j => ∃ f, files[i]? = some f ∧ i ≠ j ∧ ∃ h unit, facts.about? f.path = some h ∧
        h.RefersTo library unit ∧ providerOf? (unitProviders facts files) unit = some j := by
  unfold fileGraph
  rw [foldl_addNode_empty List.nodup_range]
  have hstart := wellFormed_of_nodup (List.nodup_range (n := files.length))
  refine (foldl_extends (fun x i j => i = x.2 ∧ i ≠ j ∧
    ∃ h unit, facts.about? x.1.path = some h ∧ h.RefersTo library unit ∧
      providerOf? (unitProviders facts files) unit = some j) files.zipIdx hstart ?_).congr ?_
  · rintro g ⟨f, i⟩ hfi hwf hnodes
    have hi : i < files.length := by
      have := List.mem_zipIdx hfi
      omega
    cases habout : facts.about? f.path with
    | none =>
      simp only [habout]
      exact (extends_self hwf).congr fun _ _ => by simp
    | some h =>
      simp only [habout]
      refine (references_extend hwf hnodes hi (h.localReferences library)).congr fun a b => ?_
      simp [HdlFacts.mem_localReferences]
  · intro i j
    constructor
    · rintro ⟨⟨f, k⟩, hfk, rfl, hne, hrefer⟩
      exact ⟨f, List.mem_zipIdx_iff_getElem?.mp hfk, hne, hrefer⟩
    · rintro ⟨f, hf, hne, hrefer⟩
      exact ⟨(f, i), List.mem_zipIdx_iff_getElem?.mpr hf, rfl, hne, hrefer⟩

/-- The graph of the files is well-formed. -/
theorem wellFormed_fileGraph : (fileGraph facts library files).WellFormed :=
  (fileGraph_extends facts library files).wellFormed

theorem nodes_fileGraph : (fileGraph facts library files).nodes = List.range files.length :=
  (fileGraph_extends facts library files).nodes

theorem size_fileGraph : (fileGraph facts library files).size = files.length := by
  show (fileGraph facts library files).nodes.length = files.length
  rw [nodes_fileGraph, List.length_range]

/-- The nodes of the graph are their own positions. -/
theorem position_fileGraph {i : Nat} (hi : i < files.length) :
    (fileGraph facts library files).position i = i := by
  have hlt : i < (fileGraph facts library files).nodes.length := by
    rwa [nodes_fileGraph, List.length_range]
  have hnode : (fileGraph facts library files).nodes[i] = i := by
    simp only [nodes_fileGraph, List.getElem_range]
  have hpos := position_getElem wellFormed_fileGraph hlt
  rwa [hnode] at hpos

/-- **The graph of the files of a library holds the references between them**, by position. -/
theorem requires_fileGraph (hfiles : files.Nodup) {i j : Nat} :
    (fileGraph facts library files).Requires i j ↔ ∃ f g, files[i]? = some f ∧
      files[j]? = some g ∧ LocalReference facts library files f g := by
  rw [(fileGraph_extends facts library files).requires]
  simp only [not_requires_of_edges, false_or]
  constructor
  · -- distinct positions hold distinct files, since no file stands twice
    rintro ⟨f, hf, hne, h, unit, habout, hunit, hp⟩
    obtain ⟨g, hg, -⟩ := providerOf?_eq_some.mp hp
    refine ⟨f, g, hf, hg, List.mem_of_getElem? hf, ?_, h, unit, habout, hunit,
      firstProvider_iff.mpr ⟨j, hg, hp⟩⟩
    rintro rfl
    exact hne ((List.getElem?_inj (List.getElem?_eq_some_iff.mp hf).1 hfiles).mp (hf.trans hg.symm))
  · rintro ⟨f, g, hf, hg, -, hne, h, unit, habout, hunit, hfirst⟩
    obtain ⟨k, hk, hp⟩ := firstProvider_iff.mp hfirst
    obtain rfl : k = j :=
      (List.getElem?_inj (List.getElem?_eq_some_iff.mp hk).1 hfiles).mp (hk.trans hg.symm)
    refine ⟨f, hf, ?_, h, unit, habout, hunit, hp⟩
    rintro rfl
    exact hne (Option.some.inj (hf.symm.trans hg))

/-- A reference goes to a file of the library. -/
theorem LocalReference.mem {f g : SourceFile} (h : LocalReference facts library files f g) :
    g ∈ files := by
  obtain ⟨-, -, -, -, -, -, before, after, rfl, -⟩ := h
  simp

/-- The position at which a file is found holds it. -/
theorem getElem?_idxOf {f : SourceFile} (hf : f ∈ files) : files[files.idxOf f]? = some f := by
  rw [List.getElem?_eq_getElem (List.idxOf_lt_length_iff.mpr hf), List.getElem_idxOf]

/-- A reference is an edge between the positions of the two files. -/
theorem LocalReference.requires (hfiles : files.Nodup) {f g : SourceFile}
    (h : LocalReference facts library files f g) :
    (fileGraph facts library files).Requires (files.idxOf f) (files.idxOf g) :=
  (requires_fileGraph hfiles).mpr ⟨f, g, getElem?_idxOf h.1, getElem?_idxOf h.mem, h⟩

/-- **Files refer to each other in a ring exactly when their graph has no order.** -/
theorem order?_fileGraph_eq_none_iff (hfiles : files.Nodup) :
    (fileGraph facts library files).order? = none ↔
      Cyclic (LocalReference facts library files) := by
  rw [order?_eq_none_iff wellFormed_fileGraph, ← cyclic_requires_iff wellFormed_fileGraph]
  constructor
  · refine Cyclic.lift (fun i => (files[i]?).getD default) fun i j hij => ?_
    obtain ⟨f, g, hf, hg, href⟩ := (requires_fileGraph hfiles).mp hij
    rwa [hf, hg]
  · exact Cyclic.lift files.idxOf fun f g href => href.requires hfiles

/-! ## The files in order -/

/-- **No file is lost and none is added** when the files of a library are put in order. -/
theorem orderFiles_perm (facts : FactTable) (library : String) (files : List SourceFile) :
    (orderFiles facts library files).Perm files := by
  unfold orderFiles
  split
  · rename_i order horder
    have hperm := (order?_spec horder).2
    rw [size_fileGraph] at hperm
    have hread := hperm.filterMap fun i => files[i]?
    rwa [filterMap_getElem?_range] at hread
  · exact List.Perm.refl _

/-- **A file stands behind the files to which it refers**, unless there is a ring. -/
theorem idxOf_orderFiles_lt (hfiles : files.Nodup)
    (hacyclic : ¬ Cyclic (LocalReference facts library files)) {f g : SourceFile}
    (href : LocalReference facts library files f g) :
    (orderFiles facts library files).idxOf g < (orderFiles facts library files).idxOf f := by
  have hsome := mt (order?_fileGraph_eq_none_iff hfiles).mp hacyclic
  obtain ⟨order, horder⟩ := Option.ne_none_iff_exists'.mp hsome
  obtain ⟨hin, hperm⟩ := order?_spec horder
  rw [size_fileGraph] at hperm
  have hlt : ∀ i ∈ order, i < files.length := fun i hi =>
    List.mem_range.mp (hperm.mem_iff.mp hi)
  have hf := List.idxOf_lt_length_iff.mpr href.1
  -- the nodes are positions, and the position of a node is the node
  have hedge := (href.requires hfiles).2.2
  rw [position_fileGraph hf, position_fileGraph (List.idxOf_lt_length_iff.mpr href.mem)] at hedge
  have hfiles' : orderFiles facts library files = order.filterMap fun i => files[i]? := by
    unfold orderFiles
    rw [horder]
  rw [hfiles', idxOf_filterMap_getElem? hfiles hlt href.mem,
    idxOf_filterMap_getElem? hfiles hlt href.1]
  exact hin.idxOf_lt _ (hperm.mem_iff.mpr (List.mem_range.mpr hf)) _ hedge

/-- **Files that refer to each other in a ring** keep the order of their registration, and so do
all files of their library. -/
theorem orderFiles_of_cyclic (hfiles : files.Nodup)
    (hcyclic : Cyclic (LocalReference facts library files)) :
    orderFiles facts library files = files := by
  unfold orderFiles
  rw [(order?_fileGraph_eq_none_iff hfiles).mpr hcyclic]

end RtlFlow.Catalog
