import RtlFlow.Proofs.Cache.Decisions
import RtlFlow.Proofs.Plan.CompileOrder
import Mathlib.Data.List.Find

/-! # Catalogs that grow at their end

A node that is put last into a graph, and on which no other node depends, stands last in its order:
as long as another node is left, one of those comes first (`GrowsBy.order?_eq_some`). So a library
that is registered last, and that no file registered before needs, is one more unit at the end of
the plan, and the decisions on the files before it stay as they were
(`resolveWith_grown`). -/

namespace RtlFlow

namespace DependencyGraph

variable {α : Type} {g g' : DependencyGraph α} {a : α} {done order : List Nat}

/-! ## The order of a graph with one more node -/

/-- **A graph with one more node**, which stands last and on which no other node depends. -/
structure GrowsBy (g g' : DependencyGraph α) (a : α) : Prop where
  /-- The node is put last. -/
  nodes : g'.nodes = g.nodes ++ [a]
  /-- The other nodes depend on each other as before, and not on it. -/
  dependsOn : ∀ {i j}, i < g.size → (g'.DependsOn i j ↔ g.DependsOn i j)

theorem GrowsBy.size (h : g.GrowsBy g' a) : g'.size = g.size + 1 := by
  show g'.nodes.length = g.nodes.length + 1
  rw [h.nodes, List.length_append, List.length_singleton]

/-- Another node can stand next when it could before. -/
theorem GrowsBy.isReady_eq (h : g.GrowsBy g' a) {i : Nat} (hi : i < g.size) (done : List Nat) :
    g'.isReady done i = g.isReady done i := by
  rw [Bool.eq_iff_iff, isReady_iff, isReady_iff]
  simp only [h.dependsOn hi]

/-- The node that stands next is the one that stood next before, if there is one. -/
theorem GrowsBy.next?_eq (h : g.GrowsBy g' a) (done : List Nat) :
    g'.next? done = (g.next? done).or (if g'.isReady done g.size then some g.size else none) := by
  unfold next?
  rw [h.size, List.range_succ, List.find?_append, List.find?_singleton]
  congr 1
  exact List.find?_congr fun i hi => h.isReady_eq (List.mem_range.mp hi) done

/-- **The nodes come in the order in which they came**, as long as one of them can stand next. -/
theorem GrowsBy.extend_eq (h : g.GrowsBy g' a) (fuel : Nat) (done : List Nat)
    (hfull : (g.extend fuel done).length = done.length + fuel) :
    g'.extend fuel done = g.extend fuel done := by
  induction fuel generalizing done with
  | zero => rfl
  | succ fuel ih =>
    unfold extend at hfull ⊢
    rw [h.next?_eq]
    cases hnext : g.next? done with
    | none =>
      -- the row would have stopped short
      rw [hnext] at hfull
      dsimp only at hfull
      omega
    | some i =>
      rw [hnext] at hfull
      dsimp only [Option.some_or] at hfull ⊢
      refine ih _ ?_
      rw [hfull, List.length_append, List.length_singleton]
      omega

/-- What cannot be extended stays as it is. -/
theorem extend_of_next?_eq_none (h : g.next? done = none) (fuel : Nat) :
    g.extend fuel done = done := by
  cases fuel with
  | zero => rfl
  | succ fuel => rw [extend, h]

/-- The last step of an extension. -/
theorem extend_succ (g : DependencyGraph α) (fuel : Nat) (done : List Nat) :
    g.extend (fuel + 1) done =
      match g.next? (g.extend fuel done) with
      | some i => g.extend fuel done ++ [i]
      | none => g.extend fuel done := by
  induction fuel generalizing done with
  | zero => rfl
  | succ fuel ih =>
    cases hnext : g.next? done with
    | none => simp only [extend_of_next?_eq_none hnext, hnext]
    | some i =>
      have hstep (n : Nat) : g.extend (n + 1) done = g.extend n (done ++ [i]) := by
        rw [extend, hnext]
      rw [hstep, ih, hstep]

/-- The new node can stand behind all others. -/
theorem GrowsBy.next?_order (h : g.GrowsBy g' a) (hg' : g'.WellFormed)
    (hperm : order.Perm (List.range g.size)) : g'.next? order = some g.size := by
  have hmem : ∀ i, i ∈ order ↔ i < g.size := fun i => hperm.mem_iff.trans List.mem_range
  have hnone : g.next? order = none := by
    rw [next?, List.find?_eq_none]
    intro i hi hready
    exact (isReady_iff.mp hready).1 ((hmem i).mpr (List.mem_range.mp hi))
  have hready : g'.isReady order g.size = true := by
    rw [isReady_iff, hmem]
    refine ⟨lt_irrefl _, fun j hj => (hmem j).mpr ?_⟩
    -- a provider of the new node is a node, and not the new one itself
    have hlt := hg'.provider_lt hj
    have hne := hg'.ne hj
    rw [h.size] at hlt
    omega
  rw [h.next?_eq, hnone, hready]
  rfl

/-- **A node that is put last, and on which no other depends, comes last in the order.** -/
theorem GrowsBy.order?_eq_some (h : g.GrowsBy g' a) (hg' : g'.WellFormed)
    (horder : g.order? = some order) : g'.order? = some (order ++ [g.size]) := by
  obtain ⟨-, hperm⟩ := order?_spec horder
  have hlen : order.length = g.size := by simpa using hperm.length_eq
  have harranged : g.extend g.size [] = order := by
    unfold order? at horder
    split at horder
    · exact Option.some.inj horder
    · cases horder
  have hgrown : g'.arranged = order ++ [g.size] := by
    rw [arranged, h.size, extend_succ, h.extend_eq, harranged, h.next?_order hg' hperm]
    rw [harranged, hlen, List.length_nil, Nat.zero_add]
  rw [order?, if_pos, hgrown]
  rw [hgrown, h.size, List.length_append, List.length_singleton, hlen]

/-- **The new node is named last.** -/
theorem GrowsBy.sort_eq_ok (h : g.GrowsBy g' a) (hg' : g'.WellFormed) {names : List α}
    (hsort : g.sort = .ok names) : g'.sort = .ok (names ++ [a]) := by
  unfold sort at hsort ⊢
  cases horder : g.order? with
  | none => simp [horder] at hsort
  | some order =>
    obtain ⟨hin, -⟩ := order?_spec horder
    rw [horder] at hsort
    obtain rfl := Except.ok.inj hsort
    rw [h.order?_eq_some hg' horder]
    have hold : g'.nodesAt order = g.nodesAt order :=
      List.filterMap_congr fun i hi => by
        rw [h.nodes, List.getElem?_append_left (hin.lt_size i hi)]
    have hnew : g'.nodesAt [g.size] = [a] := by
      have hlast : g'.nodes[g.size]? = some a := by
        rw [h.nodes]
        exact List.getElem?_concat_length
      simp [nodesAt, hlast]
    show Except.ok (g'.nodesAt (order ++ [g.size])) = _
    rw [nodesAt, List.filterMap_append]
    exact congrArg Except.ok (congrArg₂ _ hold hnew)

/-- **An edge is a requirement** between the names of its two nodes. -/
theorem dependsOn_iff [DecidableEq α] (hg : g.WellFormed) {i j : Nat} :
    g.DependsOn i j ↔ ∃ a b, g.nodes[i]? = some a ∧ g.nodes[j]? = some b ∧ g.Requires a b := by
  constructor
  · intro h
    have hi : i < g.nodes.length := hg.consumer_lt h
    have hj : j < g.nodes.length := hg.provider_lt h
    refine ⟨_, _, List.getElem?_eq_getElem hi, List.getElem?_eq_getElem hj, List.getElem_mem hi,
      List.getElem_mem hj, ?_⟩
    rwa [position_getElem hg hi, position_getElem hg hj]
  · rintro ⟨a, b, ha, hb, -, -, h⟩
    obtain ⟨hi, rfl⟩ := List.getElem?_eq_some_iff.mp ha
    obtain ⟨hj, rfl⟩ := List.getElem?_eq_some_iff.mp hb
    rwa [position_getElem hg hi, position_getElem hg hj] at h

end DependencyGraph

namespace Catalog

open DependencyGraph
open RtlFlow.Text.Unicode

variable {c c' : Catalog} {facts facts' : FactTable} {l : String}

/-! ## Registering files of one library -/

/-- **A catalog in which files of one library were registered** behind those that were there. -/
inductive Grown (l : String) (c : Catalog) : Catalog → Prop
  /-- No file was registered yet. -/
  | self : Grown l c c
  /-- One more file is registered. -/
  | register {c' c'' : Catalog} (h : Grown l c c') (p : Path) (library : String)
      (a : SourceAttributes) (hlibrary : lowercase (Text.trim library) = l)
      (hregister : c'.register p library a = .ok c'') : Grown l c c''

theorem Grown.registered (h : Grown l c c') (hc : c.Registered) : c'.Registered := by
  induction h with
  | self => exact hc
  | register _ p library a _ hregister ih => exact ih.register p library a hregister

/-- The new files stand behind the others, and all are of the library. -/
theorem Grown.exists_files_eq (h : Grown l c c') :
    ∃ new, c'.files = c.files ++ new ∧ ∀ f ∈ new, f.library = l := by
  induction h with
  | self => exact ⟨[], by simp, by simp⟩
  | register _ p library a hlibrary hregister ih =>
    obtain ⟨new, hfiles, hnew⟩ := ih
    rcases register_eq_ok hregister with rfl | ⟨file, rfl, -, -, hfile, -⟩
    · exact ⟨new, hfiles, hnew⟩
    · refine ⟨new ++ [file], by simp [hfiles], fun f hf => ?_⟩
      rcases List.mem_append.mp hf with hf | hf
      · exact hnew f hf
      · rw [List.mem_singleton.mp hf, hfile, hlibrary]

/-- A name that is new, however often it is repeated, is put behind the distinct ones. -/
theorem distinct_append {names more : List String} (hnot : l ∉ names) (hmore : more ≠ [])
    (hall : ∀ s ∈ more, s = l) : distinct (names ++ more) = distinct names ++ [l] := by
  induction names with
  | nil =>
    rw [List.nil_append]
    cases more with
    | nil => exact absurd rfl hmore
    | cons s more =>
      obtain ⟨rfl, hall⟩ := List.forall_mem_cons.mp hall
      have hrest : (distinct more).filter (· ≠ s) = [] :=
        List.filter_eq_nil_iff.mpr fun t ht => by simp [hall t (mem_distinct.mp ht)]
      show s :: (distinct more).filter (· ≠ s) = [s]
      rw [hrest]
  | cons s names ih =>
    obtain ⟨hs, hnot⟩ := not_or.mp (mt List.mem_cons.mpr hnot)
    rw [List.cons_append, distinct, distinct, ih hnot, List.filter_append, List.cons_append]
    simp [hs]

/-- **A library that was registered last** is the last one. -/
theorem Grown.libraries_eq (h : Grown l c c') (hnew : l ∉ c.libraries) (hl : l ∈ c'.libraries) :
    c'.libraries = c.libraries ++ [l] := by
  obtain ⟨new, hfiles, hall⟩ := h.exists_files_eq
  rw [libraries, hfiles, List.map_append]
  refine distinct_append (by simpa using hnew) ?_ (by simpa using hall)
  -- the files that were there are not of the library
  rintro hnil
  rw [List.map_eq_nil_iff] at hnil
  rw [libraries, hfiles, hnil, List.append_nil] at hl
  exact hnew hl

theorem Grown.filesIn_eq (h : Grown l c c') {k : String} (hk : k ≠ l) :
    c'.filesIn k = c.filesIn k := by
  obtain ⟨new, hfiles, hall⟩ := h.exists_files_eq
  have hnone : new.filter (fun f => f.library == k) = [] :=
    List.filter_eq_nil_iff.mpr fun f hf => by simpa [hall f hf] using hk.symm
  rw [filesIn, hfiles, List.filter_append, hnone, List.append_nil]
  rfl

/-! ## The plan of a catalog that has grown -/

/-- The order of the files of a library depends on the facts about them only. -/
theorem orderFiles_congr {files : List SourceFile}
    (h : ∀ f ∈ files, facts'.about? f.path = facts.about? f.path) (library : String) :
    orderFiles facts' library files = orderFiles facts library files := by
  have hmem : ∀ x ∈ files.zipIdx, x.1 ∈ files := fun x hx => (List.mem_zipIdx' hx).2 ▸ by simp
  have hproviders : unitProviders facts' files = unitProviders facts files :=
    List.flatMap_congr fun x hx => by simp only [h x.1 (hmem x hx)]
  have hgraph : fileGraph facts' library files = fileGraph facts library files := by
    unfold fileGraph
    simp only [hproviders]
    exact List.foldl_ext _ _ _ fun g x hx => by simp only [h x.1 (hmem x hx)]
  rw [orderFiles, orderFiles, hgraph]

/-- The libraries that were there need each other as before, when none of their files needs the new
one. -/
theorem Grown.libraryNeeds_iff (h : Grown l c c') (hnew : l ∉ c.libraries)
    (hl : l ∈ c'.libraries) (hfacts : ∀ f ∈ c.files, facts'.about? f.path = facts.about? f.path)
    (hfree : ∀ f ∈ c.files, ¬ Needs facts f l) {a b : String} (ha : a ∈ c.libraries) :
    c'.LibraryNeeds facts' a b ↔ c.LibraryNeeds facts a b := by
  obtain ⟨new, hfiles, hall⟩ := h.exists_files_eq
  have hneeds : ∀ f ∈ c.files, (Needs facts' f b ↔ Needs facts f b) := fun f hf => by
    simp only [Needs, hfacts f hf]
  have hlibraries := h.libraries_eq hnew hl
  constructor
  · rintro ⟨hne, hb, f, hf, rfl, hfb⟩
    -- the file is one of those that were there, since its library was
    have hf : f ∈ c.files := by
      rw [hfiles] at hf
      rcases List.mem_append.mp hf with hf | hf
      · exact hf
      · exact absurd (hall f hf ▸ ha) hnew
    rw [hneeds f hf] at hfb
    rw [hlibraries] at hb
    rcases List.mem_append.mp hb with hb | hb
    · exact ⟨hne, hb, f, hf, rfl, hfb⟩
    · exact absurd (List.mem_singleton.mp hb ▸ hfb) (hfree f hf)
  · rintro ⟨hne, hb, f, hf, rfl, hfb⟩
    refine ⟨hne, ?_, f, ?_, rfl, (hneeds f hf).mpr hfb⟩
    · rw [hlibraries]
      exact List.mem_append_left _ hb
    · rw [hfiles]
      exact List.mem_append_left _ hf

/-- **The graph of the libraries grows by the new one.** -/
theorem Grown.growsBy_libraryGraph (h : Grown l c c') (hnew : l ∉ c.libraries)
    (hl : l ∈ c'.libraries) (hfacts : ∀ f ∈ c.files, facts'.about? f.path = facts.about? f.path)
    (hfree : ∀ f ∈ c.files, ¬ Needs facts f l) :
    (c.libraryGraph facts).GrowsBy (c'.libraryGraph facts') l := by
  have hnodes : (c.libraryGraph facts).nodes = c.libraries := (libraryGraph_extends c facts).nodes
  have hnodes' : (c'.libraryGraph facts').nodes = c.libraries ++ [l] :=
    (libraryGraph_extends c' facts').nodes.trans (h.libraries_eq hnew hl)
  refine ⟨by rw [hnodes', hnodes], fun {i j} hi => ?_⟩
  have hi : i < c.libraries.length := hnodes ▸ hi
  rw [dependsOn_iff (libraryGraph_extends c' facts').wellFormed,
    dependsOn_iff (libraryGraph_extends c facts).wellFormed, hnodes, hnodes']
  simp only [requires_libraryGraph, List.getElem?_append_left hi]
  constructor
  · rintro ⟨a, b, ha, hb, hneeds⟩
    have hneeds := (h.libraryNeeds_iff hnew hl hfacts hfree (List.mem_of_getElem? ha)).mp hneeds
    refine ⟨a, b, ha, ?_, hneeds⟩
    -- a library that was there does not stand at the last place
    rcases lt_or_ge j c.libraries.length with hj | hj
    · rwa [List.getElem?_append_left hj] at hb
    · rw [List.getElem?_append_right hj] at hb
      have hbl := List.mem_singleton.mp (List.mem_of_getElem? hb)
      exact absurd (hbl ▸ hneeds.2.1) hnew
  · rintro ⟨a, b, ha, hb, hneeds⟩
    refine ⟨a, b, ha, ?_,
      (h.libraryNeeds_iff hnew hl hfacts hfree (List.mem_of_getElem? ha)).mpr hneeds⟩
    rwa [List.getElem?_append_left (List.getElem?_eq_some_iff.mp hb).1]

/-- The plan of a catalog that has grown is the one that it had, with one more unit. -/
theorem Grown.planOf_eq (h : Grown l c c')
    (hfacts : ∀ f ∈ c.files, facts'.about? f.path = facts.about? f.path) {libraries : List String}
    (hold : ∀ k ∈ libraries, k ≠ l) :
    c'.planOf facts' (libraries ++ [l]) =
      ⟨(c.planOf facts libraries).units ++ [⟨l, orderFiles facts' l (c'.filesIn l)⟩]⟩ := by
  have hunits : (libraries.map fun k => (⟨k, orderFiles facts' k (c'.filesIn k)⟩ : CompileUnit)) =
      libraries.map fun k => ⟨k, orderFiles facts k (c.filesIn k)⟩ := by
    refine List.map_congr_left fun k hk => ?_
    rw [h.filesIn_eq (hold k hk), orderFiles_congr fun f hf => hfacts f (mem_filesIn.mp hf).1]
  rw [planOf, planOf, List.map_append, hunits]
  rfl

/-- **Growing at the end keeps what was earned.** When files of one new library are registered
behind all others, and no file that was there needs that library, the plan is the one that it was
with one unit more, whatever the new files need; so the decisions on the files that were there are
for every cache and backend the ones that they were. -/
theorem resolveWith_grown (hc : c.Registered) (h : Grown l c c') (hnew : l ∉ c.libraries)
    (hl : l ∈ c'.libraries) (hfacts : ∀ f ∈ c.files, facts'.about? f.path = facts.about? f.path)
    (hfree : ∀ f ∈ c.files, ¬ Needs facts f l) {plan : BuildPlan}
    (hplan : c.resolveWith facts = .ok plan) :
    ∃ u : CompileUnit, u.library = l ∧ u.files.Perm (c'.filesIn l) ∧
      c'.resolveWith facts' = .ok ⟨plan.units ++ [u]⟩ ∧
      ∀ (cache : CacheContent) (backend : String) (fingerprint? : Path → Option String)
        (present : String → Bool), ∃ more : List PlannedFile, more.map (·.file) = u.files ∧
          (cache.filter ⟨plan.units ++ [u]⟩ backend fingerprint? present).entries =
            (cache.filter plan backend fingerprint? present).entries ++ more := by
  have hgraph := libraryGraph_extends c facts
  obtain ⟨libraries, hsort, rfl⟩ := hc.resolveWith_eq_ok_iff.mp hplan
  have hperm := (sort_eq_ok hgraph.wellFormed hsort).1
  rw [hgraph.nodes] at hperm
  have hgrown := (h.growsBy_libraryGraph hnew hl hfacts hfree).sort_eq_ok
    (libraryGraph_extends c' facts').wellFormed hsort
  have hold : ∀ k ∈ libraries, k ≠ l := by
    rintro k hk rfl
    exact hnew (hperm.mem_iff.mp hk)
  refine ⟨⟨l, orderFiles facts' l (c'.filesIn l)⟩, rfl, orderFiles_perm _ _ _, ?_, ?_⟩
  · rw [← h.planOf_eq hfacts hold]
    exact (h.registered hc).resolveWith_eq_ok_iff.mpr ⟨_, hgrown, rfl⟩
  · intro cache backend fingerprint? present
    refine CacheContent.exists_entries_filter_eq ?_
    simp [BuildPlan.files]

/-- A catalog of two libraries, behind which one file of a third one was registered. -/
def thirdLibrary : Catalog :=
  { lateLibrary with
    files := lateLibrary.files ++
      [⟨⟨"/p/extra/x.vhd"⟩, "extra", .vhdl, true, .empty, ["work"], []⟩] }

/-- The facts about its files. -/
def thirdLibraryFacts : FactTable :=
  lateLibraryFacts ++ [(⟨"/p/extra/x.vhd"⟩, { libraries := ["util", "extra"] })]

/-- The third library comes last, and needs both of the others. -/
theorem resolveWith_thirdLibrary :
    Grown "extra" lateLibrary thirdLibrary ∧
      (∀ f ∈ lateLibrary.files, ¬ Needs lateLibraryFacts f "extra") ∧
      ∃ u : CompileUnit, u.library = "extra" ∧
        thirdLibrary.resolveWith thirdLibraryFacts =
          .ok ⟨[⟨"util", lateLibrary.filesIn "util"⟩, ⟨"work", lateLibrary.filesIn "work"⟩,
            u]⟩ := by
  have hc : lateLibrary.Registered :=
    .register (.register (.empty ⟨"/p"⟩) ⟨"top.vhd"⟩ "Work" {} rfl) ⟨"util/pkg.vhd"⟩ "util" {} rfl
  have hgrown : Grown "extra" lateLibrary thirdLibrary :=
    .register .self ⟨"extra/x.vhd"⟩ "Extra" { dependsOn := ["work"] } rfl rfl
  have hfree : ∀ f ∈ lateLibrary.files, ¬ Needs lateLibraryFacts f "extra" := by
    intro f hf
    rw [← mem_neededLibraries]
    · revert f
      decide +kernel
    · revert f
      decide +kernel
  have hfacts : ∀ f ∈ lateLibrary.files,
      thirdLibraryFacts.about? f.path = lateLibraryFacts.about? f.path := by decide +kernel
  obtain ⟨u, hu, -, hplan, -⟩ := resolveWith_grown hc hgrown (by decide +kernel)
    (by decide +kernel) hfacts hfree rfl
  exact ⟨hgrown, hfree, u, hu, hplan⟩

end Catalog

end RtlFlow
