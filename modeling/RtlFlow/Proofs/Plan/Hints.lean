import RtlFlow.Proofs.Catalog.Runs
import RtlFlow.Proofs.Plan.CompileOrder

/-! # Library hints

A registration trims the name of its library and puts it into lower case; a hint is put into lower
case only. So a hint meets the library that was registered under the same text exactly when that
text is trimmed (`hint_first`): then all files of the library come before the hinted file in every
plan. An untrimmed hint names no library that can be registered, and every plan is the one that is
made without it (`resolveWith_withoutHint`). -/

namespace RtlFlow

open RtlFlow.Text.Unicode

/-! ## Hinted files -/

/-- **Attributes that hint at a library**, which was named by the text. -/
def SourceAttributes.Hints (a : SourceAttributes) (library : String) : Prop :=
  lowercase library ∈ a.dependsOn

/-- A hint that is added is there. -/
theorem SourceAttributes.hints_addHint (a : SourceAttributes) (library : String) :
    (a.addHint library).Hints library := by
  simp [Hints, addHint]

/-- A hint stays when another one is added. -/
theorem SourceAttributes.Hints.addHint {a : SourceAttributes} {library : String}
    (h : a.Hints library) (other : String) : (a.addHint other).Hints library :=
  List.mem_append_left _ h

/-- The file without its hints at a library. -/
def SourceFile.withoutHint (l : String) (f : SourceFile) : SourceFile :=
  { f with dependsOn := f.dependsOn.filter (· ≠ l) }

/-- The plan with its files without their hints at a library. -/
def BuildPlan.withoutHint (l : String) (plan : BuildPlan) : BuildPlan :=
  ⟨plan.units.map fun u => ⟨u.library, u.files.map (SourceFile.withoutHint l)⟩⟩

namespace Catalog

variable {c : Catalog} {facts : FactTable}

/-! ## Hints at libraries that are not there -/

/-- The catalog with its files without their hints at a library. -/
def withoutHint (l : String) (c : Catalog) : Catalog :=
  { c with files := c.files.map (SourceFile.withoutHint l) }

@[simp] theorem libraries_withoutHint (l : String) (c : Catalog) :
    (c.withoutHint l).libraries = c.libraries := by
  simp only [libraries, withoutHint, List.map_map]
  rfl

theorem filesFor_withoutHint (l library : String) (c : Catalog) :
    (c.withoutHint l).filesFor library =
      (c.filesFor library).map (SourceFile.withoutHint l) := by
  simp only [filesFor, filesIn, withoutHint, List.filter_map]
  rfl

/-- **A hint at a library that is not there adds no edge.** -/
theorem libraryGraph_withoutHint {l : String} (hl : l ∉ c.libraries) (facts : FactTable) :
    (c.withoutHint l).libraryGraph facts = c.libraryGraph facts := by
  unfold libraryGraph
  simp only [libraries_withoutHint]
  rw [withoutHint, List.foldl_map]
  refine List.foldl_ext _ _ _ fun g f _ => ?_
  simp only [neededLibraries, SourceFile.withoutHint, List.foldl_append, List.foldl_filter]
  refine List.foldl_ext _ _ _ fun g needed _ => ?_
  -- the hint is passed over on one side, and makes no edge on the other
  by_cases hneeded : needed = l
  · have hnot : ¬ (needed ≠ f.library ∧ needed ∈ c.libraries) := fun h => hl (hneeded ▸ h.2)
    rw [if_neg hnot, if_neg (by simpa using hneeded)]
  · exact if_pos (by simpa using hneeded)

/-- The order of the files of a library depends on their paths only. -/
theorem orderFiles_map {change : SourceFile → SourceFile} (hchange : ∀ f, (change f).path = f.path)
    (facts : FactTable) (library : String) (files : List SourceFile) :
    orderFiles facts library (files.map change) = (orderFiles facts library files).map change := by
  have hproviders : unitProviders facts (files.map change) = unitProviders facts files := by
    simp only [unitProviders, List.zipIdx_map, List.flatMap_map, Prod.map, hchange, id_eq]
  have hgraph : fileGraph facts library (files.map change) = fileGraph facts library files := by
    unfold fileGraph
    simp only [hproviders, List.length_map, List.zipIdx_map, List.foldl_map, Prod.map, hchange,
      id_eq]
  rw [orderFiles, orderFiles, hgraph]
  cases (fileGraph facts library files).order? with
  | none => rfl
  | some order =>
    simp only [List.getElem?_map, List.map_filterMap]

/-- **A hint at a library that is not there changes no plan**, and makes none fail. -/
theorem resolveWith_withoutHint {l : String} (hl : l ∉ c.libraries) (facts : FactTable) :
    (c.withoutHint l).resolveWith facts =
      (c.resolveWith facts).map (BuildPlan.withoutHint l) := by
  unfold resolveWith
  rw [libraryGraph_withoutHint hl]
  cases (c.libraryGraph facts).sort with
  | error ring => rfl
  | ok libraries =>
    show Except.ok _ = Except.ok _
    refine congrArg Except.ok (congrArg BuildPlan.mk ?_)
    -- the libraries are in the same order, and so are the files of each
    rw [List.map_map]
    refine List.map_congr_left fun k _ => ?_
    have hpath : ∀ f : SourceFile, (f.withoutHint l).path = f.path := fun f => rfl
    rw [filesFor_withoutHint, orderFiles_map hpath]
    rfl

/-! ## Hints at libraries that are -/

/-- **A library that is hinted at comes first**, with all of its files. -/
theorem CompileOrder.library_first_of_hint {plan : BuildPlan} (h : c.CompileOrder facts plan)
    {g : SourceFile} (hg : g ∈ c.files) {l : String} (hhint : l ∈ g.dependsOn)
    (hother : g.library ≠ l) :
    ∀ f ∈ c.filesIn l, plan.files.idxOf f < plan.files.idxOf g := by
  intro f hf
  obtain ⟨hmem, rfl⟩ := mem_filesIn.mp hf
  exact h.library_first g hg f hmem hother.symm (Or.inl hhint)

/-- A library of a catalog that was built is not named by an untrimmed text in lower case. -/
theorem Registered.lowercase_notMem_libraries (hc : c.Registered) {library : String}
    (h : Text.trim library ≠ library) : lowercase library ∉ c.libraries := by
  intro hmem
  obtain ⟨f, hf, heq⟩ := mem_libraries.mp hmem
  have htrim := hc.trim_library hf
  rw [heq] at htrim
  exact h (Text.trim_lowercase_eq_self_iff.mp htrim)

/-- **When a hint meets the library that was registered under the same text.** In every run of calls
in which a file is registered in a library and another one with a hint at it, both named by one
text: if the text is trimmed, all files of the library stand before the hinted file in every plan,
in whatever case it is written, unless that is a file of the library itself. If it is not, the
catalog has no library with the name of the hint, and plans and errors are those without it. -/
theorem hint_first (root : Path) (calls : List Holdings.Call) {provider hinted : Holdings.Call}
    {library own : String} {p q : Path} {a b : SourceAttributes}
    (hprovider : provider.Registers p library a) (hhinted : hinted.Registers q own b)
    (hhint : b.Hints library)
    (hprovided : (provider, .ok ()) ∈ calls.zip ((empty root).answers calls).1)
    (hanswered : (hinted, .ok ()) ∈ calls.zip ((empty root).answers calls).1) :
    ∃ c f g, ((empty root).answers calls).2 = c ∧ c.file? p = some f ∧ c.file? q = some g ∧
      f.library = lowercase (Text.trim library) ∧ g.library = lowercase (Text.trim own) ∧
      (Text.trim library = library → g.library ≠ f.library →
        ∀ facts plan, c.resolveWith facts = .ok plan → plan.files.Perm c.files ∧
          ∀ f' ∈ c.files, f'.library = f.library →
            plan.files.idxOf f' < plan.files.idxOf g) ∧
      (Text.trim library ≠ library →
        lowercase library ∉ c.libraries ∧
        ∀ facts, (c.withoutHint (lowercase library)).resolveWith facts =
          (c.resolveWith facts).map (BuildPlan.withoutHint (lowercase library))) := by
  have hc := registered_answers root calls
  obtain ⟨f, hf, hlibrary, -⟩ := exists_file?_answers hprovided hprovider
  obtain ⟨g, hg, hown, hhints⟩ := exists_file?_answers hanswered hhinted
  refine ⟨_, f, g, rfl, hf, hg, hlibrary, hown, ?_, ?_⟩
  · intro htrim hother facts plan hplan
    have horder := hc.compileOrder hplan
    -- the text is put into the same lower case at both places
    have hhint : f.library ∈ g.dependsOn := by
      rw [hlibrary, htrim, hhints]
      exact hhint
    refine ⟨horder.perm_files, fun f' hf' hlib => ?_⟩
    exact horder.library_first_of_hint (path_of_file? hg).1 hhint hother f'
      (mem_filesIn.mpr ⟨hf', hlib⟩)
  · intro htrim
    have hnot := hc.lowercase_notMem_libraries htrim
    exact ⟨hnot, resolveWith_withoutHint hnot⟩

/-- A file in the library `work` with a hint at a library. -/
def hinting (library : String) : Holdings.Call :=
  .register ⟨"top.vhd"⟩ "work" (SourceAttributes.addHint {} library)

/-- A file in a library. -/
def providing (library : String) : Holdings.Call := .register ⟨"pkg.vhd"⟩ library {}

theorem registers_hinting (library : String) :
    (hinting library).Registers ⟨"top.vhd"⟩ "work" (SourceAttributes.addHint {} library) :=
  Or.inl rfl

theorem registers_providing (library : String) :
    (providing library).Registers ⟨"pkg.vhd"⟩ library {} := Or.inl rfl

/-- The catalog in which the hinted file is registered before that of the library. -/
def hintedCatalog (library : String) : Catalog :=
  ((empty ⟨"/p"⟩).answers [hinting library, providing library]).2

/-- A hint in capitals puts its file behind those of the library. -/
theorem hint_first_capitals :
    (hintedCatalog "UTIL").files.map (·.path.text) = ["/p/top.vhd", "/p/pkg.vhd"] ∧
      ∃ f g plan, (hintedCatalog "UTIL").file? ⟨"pkg.vhd"⟩ = some f ∧
        (hintedCatalog "UTIL").file? ⟨"top.vhd"⟩ = some g ∧
        (hintedCatalog "UTIL").resolveWith [] = .ok plan ∧
        plan.files.idxOf f < plan.files.idxOf g := by
  have hreplies : ((empty ⟨"/p"⟩).answers [hinting "UTIL", providing "UTIL"]).1 =
      [.ok (), .ok ()] := rfl
  obtain ⟨c, f, g, hc, hf, hg, hlibrary, hown, htrimmed, -⟩ :=
    hint_first ⟨"/p"⟩ [hinting "UTIL", providing "UTIL"] (registers_providing "UTIL")
      (registers_hinting "UTIL") (SourceAttributes.hints_addHint {} "UTIL") (by simp [hreplies])
      (by simp [hreplies])
  change hintedCatalog "UTIL" = c at hc
  subst hc
  have hother : g.library ≠ f.library := by
    rw [hlibrary, hown]
    decide +kernel
  have hplan : ∃ plan, (hintedCatalog "UTIL").resolveWith [] = .ok plan := ⟨_, rfl⟩
  obtain ⟨plan, hplan⟩ := hplan
  have hfirst := (htrimmed (by decide +kernel) hother [] plan hplan).2 f (path_of_file? hf).1 rfl
  exact ⟨by decide +kernel, f, g, plan, hf, hg, hplan, hfirst⟩

/-- **A hint with blanks around it is passed over**, though a registration under the same text is
not: the file of the library stands behind the hinted one. -/
theorem not_forall_hint_first :
    ¬ ∀ (root : Path) (calls : List Holdings.Call) (provider hinted : Holdings.Call)
      (library own : String) (p q : Path) (a b : SourceAttributes),
      provider.Registers p library a → hinted.Registers q own b → b.Hints library →
      (provider, .ok ()) ∈ calls.zip ((empty root).answers calls).1 →
      (hinted, .ok ()) ∈ calls.zip ((empty root).answers calls).1 →
      ∃ c f g, ((empty root).answers calls).2 = c ∧ c.file? p = some f ∧ c.file? q = some g ∧
        (g.library ≠ f.library → ∀ facts plan, c.resolveWith facts = .ok plan →
          ∀ f' ∈ c.files, f'.library = f.library →
            plan.files.idxOf f' < plan.files.idxOf g) := by
  intro hall
  have hreplies : ((empty ⟨"/p"⟩).answers [hinting " Util ", providing " Util "]).1 =
      [.ok (), .ok ()] := rfl
  obtain ⟨c, f, g, hc, hf, hg, hfirst⟩ := hall ⟨"/p"⟩ [hinting " Util ", providing " Util "]
    _ _ _ _ _ _ _ _ (registers_providing " Util ") (registers_hinting " Util ")
    (SourceAttributes.hints_addHint {} " Util ") (by simp [hreplies]) (by simp [hreplies])
  change hintedCatalog " Util " = c at hc
  subst hc
  have hprovider : (hintedCatalog " Util ").file? ⟨"pkg.vhd"⟩ =
      some ⟨⟨"/p/pkg.vhd"⟩, "util", .vhdl, true, .empty, [], []⟩ := by decide +kernel
  have hhinted : (hintedCatalog " Util ").file? ⟨"top.vhd"⟩ =
      some ⟨⟨"/p/top.vhd"⟩, "work", .vhdl, true, .empty, [" util "], []⟩ := by decide +kernel
  obtain rfl := Option.some.inj (hprovider.symm.trans hf)
  obtain rfl := Option.some.inj (hhinted.symm.trans hg)
  have hlt := hfirst (by decide) [] _ rfl _ (path_of_file? hf).1 rfl
  revert hlt
  decide +kernel

end Catalog

end RtlFlow
