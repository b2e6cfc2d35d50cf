import RtlFlow.Proofs.Catalog.Runs
import RtlFlow.Proofs.Text.Trimming
import RtlFlow.Proofs.Tool.AllOrNothing

/-! # Constraints and their flows

A synthesis is given the constraints files of the catalog that suit its backend: those that belong
to no flow, and those of a flow that the settings take (`CommandBackend.constraints_spec`). The flow
of a file without a tag is read off its extension, as its kind is. The kind does not look at blanks
around the extension and the flow does, so a file with such blanks has the kind of a flow and
belongs to none, and it is given to every backend (`not_forall_keptApart`). -/

namespace RtlFlow

open RtlFlow.Text.Unicode

/-! ## Constraints files of a catalog -/

namespace Catalog

open Holdings (Call)

/-- **A constraints file as it is kept**: under its path from the root, with the kind that its
extension tells and its tag in lower case. -/
def constraintsFile (root : Path) (p : Path) (flow : Option String) : ConstraintsFile where
  path := (empty root).resolvePath p
  kind := FileKind.ofPath ((empty root).resolvePath p)
  flow := flow.map lowercase

/-- The constraints file that a call adds, if it adds one. -/
def added? (root : Path) : Call → Option ConstraintsFile
  | .addConstraints p flow => some (constraintsFile root p flow)
  | .register .. | .registerDefault .. | .addGeneric .. => none

/-- The kind of a constraints file that is added is that of its path. -/
theorem kind_of_added? {root : Path} {call : Call} {f : ConstraintsFile}
    (h : added? root call = some f) : f.kind = FileKind.ofPath f.path := by
  cases call with
  | addConstraints p flow =>
    rw [added?, Option.some.injEq] at h
    rw [← h, constraintsFile]
  | register | registerDefault | addGeneric => simp [added?] at h

/-- One call adds its constraints file behind the others. -/
theorem constraints_on {c c' : Catalog} {call : Call} (h : call.on c = .ok c') :
    c'.constraints = c.constraints ++ (added? c.root call).toList := by
  have hregister : ∀ {p : Path} {library : String} {a : SourceAttributes},
      c.register p library a = .ok c' → c'.constraints = c.constraints := by
    intro p library a hregister
    rcases register_eq_ok hregister with rfl | ⟨file, rfl, -⟩ <;> rfl
  cases call with
  | register p library a =>
    rw [Call.on] at h
    rw [hregister h]
    simp [added?]
  | registerDefault p a =>
    rw [Call.on] at h
    rw [hregister h]
    simp [added?]
  | addConstraints p flow =>
    obtain rfl := Except.ok.inj h
    rfl
  | addGeneric name value =>
    obtain rfl := Except.ok.inj h
    simp [added?, addGeneric]

/-- **A catalog keeps the constraints files that are added to it**, in their order, whatever else is
called and whether that ends well or not. -/
theorem constraints_answers (c : Catalog) (calls : List Call) :
    (c.answers calls).2.constraints = c.constraints ++ calls.filterMap (added? c.root) := by
  induction calls generalizing c with
  | nil => rw [answers, List.filterMap_nil, List.append_nil]
  | cons call calls ih =>
    rw [answers]
    cases hcall : call.on c with
    | error e =>
      -- to add constraints never fails, so that the call adds none
      have hnone : added? c.root call = none := by
        cases call with
        | addConstraints p flow => cases hcall
        | _ => rfl
      simp only [ih, List.filterMap_cons_none hnone]
    | ok c' =>
      simp only [ih, root_on hcall, constraints_on hcall]
      cases hadded : added? c.root call with
      | none => simp [List.filterMap_cons_none hadded]
      | some file => simp [List.filterMap_cons_some hadded]

end Catalog

/-! ## Flows -/

/-- The flows that extensions imply. -/
def flowTable : List (String × String) :=
  [("ucf", "ise"), ("xdc", "vivado"), ("sdc", "quartus"), ("qsf", "quartus")]

theorem flowOfExtension?_eq_some_iff {ext flow : String} :
    flowOfExtension? ext = some flow ↔ (ext, flow) ∈ flowTable := by
  unfold flowOfExtension? flowTable
  split <;> simp_all [eq_comm]

/-- **The flow that belongs to a kind**, for the kinds that are made for one flow. -/
def FileKind.flow? : FileKind → Option String
  | .ucf => some "ise"
  | .xdc => some "vivado"
  | .sdc => some "quartus"
  | .vhdl | .verilog | .systemVerilog | .netlist | .tcl => none

/-- The extensions of the kinds of a flow imply the flow. -/
theorem FileKind.mem_flowTable {ext flow : String} (h : (ofExtension ext).flow? = some flow) :
    (ext, flow) ∈ flowTable := by
  unfold ofExtension at h
  split at h <;> simp_all [flow?, flowTable]

/-- No extension of the table has a blank in it. -/
theorem isBlank_of_mem_flowTable {row : String × String} (h : row ∈ flowTable) :
    ∀ c ∈ row.1.toList, Text.isBlank c = false := by
  have hall : (flowTable.all fun row => row.1.toList.all fun c => !Text.isBlank c) = true := by
    decide +kernel
  simpa using List.all_eq_true.mp hall row h

namespace ConstraintsFile

/-- **A constraints file belongs to a flow.** -/
inductive BelongsTo (f : ConstraintsFile) : String → Prop
  /-- The file is tagged with the flow, in any case. -/
  | tagged {flow : String} (h : f.flow = some flow) : BelongsTo f (lowercase flow)
  /-- The file has no tag, and its extension implies the flow. -/
  | implied {ext flow : String} (h : f.flow = none) (hext : f.path.extension? = some ext)
      (hrow : (asciiLowercase ext, flow) ∈ flowTable) : BelongsTo f flow

variable {f : ConstraintsFile} {flow : String}

/-- A file belongs to one flow at most. -/
theorem belongsTo_iff : f.BelongsTo flow ↔ f.effectiveFlow = some flow := by
  unfold effectiveFlow
  constructor
  · rintro (h | ⟨h, hext, hrow⟩)
    · rw [h]
    · rw [h, hext]
      exact flowOfExtension?_eq_some_iff.mpr hrow
  · intro h
    cases htag : f.flow with
    | some tag =>
      rw [htag] at h
      obtain rfl := Option.some.inj h
      exact .tagged htag
    | none =>
      rw [htag] at h
      obtain ⟨ext, hext, hflow⟩ := Option.bind_eq_some_iff.mp h
      exact .implied htag hext (flowOfExtension?_eq_some_iff.mp hflow)

/-- The flow to which a file belongs is in lower case. -/
theorem BelongsTo.lowercase_eq (h : f.BelongsTo flow) : lowercase flow = flow := by
  cases h with
  | tagged => exact lowercase_lowercase _
  | implied _ _ hrow =>
    have hall : ∀ row ∈ flowTable, lowercase row.2 = row.2 := by decide +kernel
    exact hall _ hrow

end ConstraintsFile

/-- **Settings take a flow**: it is the one that was chosen, or none was chosen and it is that of
the backend or one of those that are declared. The case of letters does not count. -/
def TakesFlow (s : BackendSettings) (chosen : Option String) (flow : String) : Prop :=
  match chosen with
  | some f => lowercase f = lowercase flow
  | none => (∃ own ∈ s.flow, lowercase own = lowercase flow) ∨
      ∃ f ∈ s.constraintFlows, lowercase f = lowercase flow

instance (s : BackendSettings) (chosen : Option String) (flow : String) :
    Decidable (TakesFlow s chosen flow) :=
  match chosen with
  | some f => inferInstanceAs (Decidable (lowercase f = lowercase flow))
  | none => inferInstanceAs (Decidable (_ ∨ _))

/-- **A constraints file suits settings** when it belongs to no flow, or to one that they take. -/
def ConstraintsFile.Suits (s : BackendSettings) (chosen : Option String) (f : ConstraintsFile) :
    Prop := ∀ flow, f.BelongsTo flow → TakesFlow s chosen flow

theorem ConstraintsFile.suits_iff {s : BackendSettings} {chosen : Option String}
    {f : ConstraintsFile} :
    f.Suits s chosen ↔
      (f.effectiveFlow.all fun flow => decide (TakesFlow s chosen flow)) = true := by
  rw [Suits, Option.all_eq_true]
  constructor
  · intro h flow hflow
    exact decide_eq_true (h flow (belongsTo_iff.mpr hflow))
  · intro h flow hflow
    exact of_decide_eq_true (h flow (belongsTo_iff.mp hflow))

instance (s : BackendSettings) (chosen : Option String) (f : ConstraintsFile) :
    Decidable (f.Suits s chosen) := decidable_of_iff _ ConstraintsFile.suits_iff.symm

/-! ## Kinds and flows -/

/-- **A file of a kind that is made for a flow** belongs to that flow, and to no other one, when its
extension stands without blanks around it; with such blanks it belongs to no flow. -/
theorem ConstraintsFile.belongsTo_of_kind {f : ConstraintsFile} (htag : f.flow = none)
    (hkind : f.kind = FileKind.ofPath f.path) {flow : String} (h : f.kind.flow? = some flow) :
    ∃ ext, f.path.extension? = some ext ∧
      (Text.trim ext = ext → ∀ flow', f.BelongsTo flow' ↔ flow' = flow) ∧
      (Text.trim ext ≠ ext → ∀ flow', ¬ f.BelongsTo flow') := by
  rw [hkind, FileKind.ofPath] at h
  cases hext : f.path.extension? with
  | none =>
    rw [hext] at h
    cases h
  | some ext =>
    rw [hext] at h
    have hrow := FileKind.mem_flowTable h
    refine ⟨ext, rfl, fun htrim flow' => ?_, fun htrim flow' hbelongs => htrim ?_⟩
    · rw [htrim] at hrow
      have hbelongs : f.BelongsTo flow := .implied htag hext hrow
      constructor
      · intro hbelongs'
        rw [belongsTo_iff] at hbelongs hbelongs'
        exact Option.some.inj (hbelongs'.symm.trans hbelongs)
      · rintro rfl
        exact hbelongs
    · cases hbelongs with
      | tagged htag' => simp [htag] at htag'
      | implied _ hext' hrow' =>
        -- the blanks would stand in an extension of the table
        obtain rfl := Option.some.inj (hext.symm.trans hext')
        have hclear := isBlank_of_mem_flowTable hrow'
        exact Text.trim_eq_self_of_asciiLowercase hclear

/-! ## Backends -/

namespace CommandBackend

/-- **A backend that follows settings** in which constraints it takes and how it synthesizes,
whatever its severity rules are. -/
structure Follows (c : Context) (b : Backend) : Prop where
  /-- The flow is that of the settings. -/
  flow : b.flow = c.settings.flow.map lowercase
  /-- The other flows are those that are declared. -/
  constraintFlows : b.capabilities.constraintFlows = c.settings.constraintFlows.map lowercase
  /-- A synthesis fills the templates. -/
  synthesizeInvocation : ∀ r, b.synthesizeInvocation r =
    invocationFor c .synthesize r.workDir (synthesizeValues c r)

/-- The backend that settings configure follows them. -/
theorem Configures.follows {c : Context} {b : Backend} (h : Configures c b) : Follows c b := by
  have hspec := h.spec
  obtain ⟨t, searchPath, shared, hb, -⟩ := h
  rw [Backend.ofSettings] at hb
  cases hfault : fault? c.settings with
  | some message =>
    rw [hfault] at hb
    cases hb
  | none =>
    rw [hfault] at hb
    obtain ⟨own, -, hb⟩ := bind_eq_ok_iff.mp hb
    obtain ⟨defaults, -, hb⟩ := bind_eq_ok_iff.mp hb
    obtain rfl := Except.ok.inj hb
    exact ⟨rfl, rfl, fun r => hspec.2.2 (.synthesize r)⟩

variable {c : Context} {b : Backend}

/-- The backend accepts a flow to which a file belongs when its settings take it. -/
theorem Follows.acceptsFlow_iff (hb : Follows c b) {chosen : Option String} {flow : String}
    (h : lowercase flow = flow) : b.acceptsFlow chosen flow = true ↔
      TakesFlow c.settings chosen flow := by
  unfold Backend.acceptsFlow TakesFlow
  cases chosen with
  | some f => rw [beq_iff_eq, h]
  | none =>
    have hdeclared : b.capabilities.constraintFlows.contains flow = true ↔
        ∃ f ∈ c.settings.constraintFlows, lowercase f = flow := by
      rw [hb.constraintFlows, List.contains_iff_mem, List.mem_map]
    have hown : (b.flow.map lowercase == some flow) = true ↔
        ∃ own ∈ c.settings.flow, lowercase own = flow := by
      rw [hb.flow, beq_iff_eq]
      cases c.settings.flow with
      | none => simp
      | some own => simp [lowercase_lowercase]
    rw [Bool.or_eq_true, hdeclared, hown, h, or_comm]

/-- **A backend takes the files that suit its settings**, in their order. -/
theorem Follows.selectConstraints_eq (hb : Follows c b) (chosen : Option String)
    (files : List ConstraintsFile) :
    b.selectConstraints chosen files = files.filter fun f => f.Suits c.settings chosen := by
  refine List.filter_congr fun f _ => ?_
  rw [Bool.eq_iff_iff, decide_eq_true_iff, ConstraintsFile.Suits, Option.all_eq_true]
  constructor
  · intro h flow hbelongs
    have hflow := ConstraintsFile.belongsTo_iff.mp hbelongs
    exact (hb.acceptsFlow_iff hbelongs.lowercase_eq).mp (h flow hflow)
  · intro h flow hflow
    have hbelongs := ConstraintsFile.belongsTo_iff.mpr hflow
    exact (hb.acceptsFlow_iff hbelongs.lowercase_eq).mpr (h flow hbelongs)

/-- **The constraints of a synthesis.** Whatever is called on a new catalog, with the constraints of
the catalog a backend is given those files that suit its settings and the flow that is chosen, in
the order in which they were added. A file without a tag whose kind is made for a flow belongs to
that flow alone, unless there are blanks around its extension. -/
theorem constraints_spec (root : Path) (calls : List Holdings.Call) (hb : Follows c b) :
    (∀ (chosen : Option String) (q : SynthesizeRequest),
      q.constraints = ((Catalog.empty root).answers calls).2.constraints →
        b.prepareSynthesize chosen q = do
          b.ensureReady .synthesize
          b.checkGenerics q.generics
          invocationFor c .synthesize q.workDir (synthesizeValues c { q with
            constraints := (calls.filterMap (Catalog.added? root)).filter fun f =>
              f.Suits c.settings chosen })) ∧
      ∀ f ∈ calls.filterMap (Catalog.added? root), f.flow = none →
        ∀ flow, f.kind.flow? = some flow → ∃ ext, f.path.extension? = some ext ∧
          (Text.trim ext = ext → ∀ flow', f.BelongsTo flow' ↔ flow' = flow) ∧
          (Text.trim ext ≠ ext → ∀ flow', ¬ f.BelongsTo flow') := by
  constructor
  · intro chosen q hq
    rw [Catalog.constraints_answers] at hq
    have hadded : q.constraints = calls.filterMap (Catalog.added? root) := hq
    rw [Backend.prepareSynthesize, hadded, hb.selectConstraints_eq]
    simp only [hb.synthesizeInvocation]
  · intro f hf htag flow hflow
    obtain ⟨call, -, hcall⟩ := List.mem_filterMap.mp hf
    exact ConstraintsFile.belongsTo_of_kind htag (Catalog.kind_of_added? hcall) hflow

/-- Settings of a backend that synthesizes in the flow of Quartus. -/
def quartus : Context where
  name := "fake"
  settings :=
    { executable := "faketool"
      flow := some "Quartus"
      synthesize := [{ args := [Template.ListKey.constraints.placeholder] }] }
  program := "faketool"

/-- A backend with these settings. -/
def quartusBackend : Backend :=
  { Backend.bare "fake" "faketool" (quartus.settings.flow.map lowercase)
      (.ofLists [.synthesize] [] []) true with
    synthesizeInvocation := fun r =>
      invocationFor quartus .synthesize r.workDir (synthesizeValues quartus r) }

theorem follows_quartusBackend : Follows quartus quartusBackend := ⟨rfl, rfl, fun _ => rfl⟩

/-- Constraints files are added with an extension of the flow, with that of another flow, with a tag
of the flow and without a flow. -/
def fourFiles : List Holdings.Call :=
  [.addConstraints ⟨"a.sdc"⟩ none, .addConstraints ⟨"b.xdc"⟩ none,
    .addConstraints ⟨"c.txt"⟩ (some "QUARTUS"), .addConstraints ⟨"d.tcl"⟩ none]

/-- A synthesis with the constraints of the four files. -/
def fourFilesRequest : SynthesizeRequest where
  library := "work"
  entity := "top"
  generics := .empty
  constraints := ((Catalog.empty ⟨"/p"⟩).answers fourFiles).2.constraints
  part := none
  files := []
  workDir := ⟨"/p/w"⟩

/-- All but the file of the other flow are given to the backend, and that file alone is when its
flow is chosen, together with the one that belongs to none. -/
theorem constraints_spec_fourFiles :
    quartusBackend.prepareSynthesize none fourFilesRequest =
        .ok { steps := [⟨"faketool", ["/p/a.sdc", "/p/c.txt", "/p/d.tcl"], ⟨"/p/w"⟩, []⟩] } ∧
      quartusBackend.prepareSynthesize (some "Vivado") fourFilesRequest =
        .ok { steps := [⟨"faketool", ["/p/b.xdc", "/p/d.tcl"], ⟨"/p/w"⟩, []⟩] } ∧
      (Catalog.constraintsFile ⟨"/p"⟩ ⟨"b.xdc"⟩ none).BelongsTo "vivado" := by
  obtain ⟨hgiven, hkinds⟩ := constraints_spec ⟨"/p"⟩ fourFiles follows_quartusBackend
  refine ⟨?_, ?_, ?_⟩
  · rw [hgiven none fourFilesRequest rfl]
    decide +kernel
  · rw [hgiven (some "Vivado") fourFilesRequest rfl]
    decide +kernel
  · obtain ⟨ext, hext, htrimmed, -⟩ := hkinds (Catalog.constraintsFile ⟨"/p"⟩ ⟨"b.xdc"⟩ none)
      (by decide +kernel) rfl "vivado" (by decide +kernel)
    have hext' : (Catalog.constraintsFile ⟨"/p"⟩ ⟨"b.xdc"⟩ none).path.extension? = some "xdc" := by
      decide +kernel
    obtain rfl := Option.some.inj (hext'.symm.trans hext)
    exact (htrimmed (by decide +kernel) "vivado").mpr rfl

/-- **Files of a kind that is made for a flow are kept from every backend that does not take the
flow**, unless they are tagged. -/
def KeptApart : Prop :=
  ∀ (root : Path) (calls : List Holdings.Call) (c : Context) (b : Backend)
    (chosen : Option String), Follows c b →
      ∀ f ∈ b.selectConstraints chosen (calls.filterMap (Catalog.added? root)), f.flow = none →
        ∀ flow, f.kind.flow? = some flow → TakesFlow c.settings chosen flow

/-- With a blank behind its extension a file of another flow is given to the backend. -/
theorem not_forall_keptApart : ¬ KeptApart := by
  intro h
  have htakes := h ⟨"/p"⟩ [.addConstraints ⟨"top.xdc "⟩ none] quartus quartusBackend none
    follows_quartusBackend (Catalog.constraintsFile ⟨"/p"⟩ ⟨"top.xdc "⟩ none) (by decide +kernel)
    rfl "vivado" (by decide +kernel)
  have hnot : ¬ TakesFlow quartus.settings none "vivado" := by decide +kernel
  exact hnot htakes

end CommandBackend

end RtlFlow
