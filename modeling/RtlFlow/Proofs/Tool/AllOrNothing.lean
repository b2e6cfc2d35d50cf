import RtlFlow.Proofs.Tool.Invocations
import RtlFlow.Proofs.Tool.Nesting

/-! # Invocations are built wholly or not at all

A template asks for a value that a request may not have. Whether some template of a step does so is
told by the templates and the values alone (`asksInVain`, `stepLacks`), and so is the invocation
that is built when none does (`Request.filled`). What fails and what succeeds is followed from a
template to a step and from the steps to the invocation by one notion (`Settles`). -/

namespace RtlFlow

namespace Template

open RtlFlow.Text

/-! ## Templates -/

/-- **Values without braces.** -/
structure Values.BraceFree (values : Values) : Prop where
  /-- Every text has none. -/
  scalar : ∀ k v, values.scalar k = some v → Template.BraceFree v
  /-- No text of a list has one. -/
  items : ∀ k, ∀ v ∈ values.items k, Template.BraceFree v

/-- A template has a key for one text, and the request has no text for it. -/
def lacksValue (values : Values) (s : String) : Bool :=
  scalarKeys.any fun k => contains s k.placeholder && (values.scalar k).isNone

/-- **An argument or script line that cannot be expanded**: it is no list, it is not left out for
want of a time to be simulated, and it lacks a value. -/
def asksInVain (values : Values) (s : String) : Bool :=
  (wholeList? s).isNone && !lacksDuration values s && lacksValue values s

/-- **The texts for an argument or script line.** `whole` tells what a list becomes. -/
def filledTexts (whole : List String → List String) (values : Values) (s : String) : List String :=
  match wholeList? s with
  | some k => whole (values.items k)
  | none => if lacksDuration values s then [] else [substitute values.text s]

/-- A list as a line of a script: the texts with blanks between them, and no line without texts. -/
def oneLine (items : List String) : List String :=
  if items.isEmpty then [] else [" ".intercalate items]

/-- **The text for a path**, in which keys for lists stay. -/
def filledPath (values : Values) (s : String) : String :=
  substitute (only values.text (scalarKeys.map .scalar)) s

/-- **A computation that succeeds or lacks a value**: it gives `y`, and for want of a value it fails
and names a key. -/
structure Settles {α : Type} (backend : String) (lacks : Bool) (y : α) (x : Except ToolError α) :
    Prop where
  /-- It fails for want of a value. -/
  fails : lacks = true → ∃ k : ScalarKey, x = .error (.missingValue backend k.placeholder)
  /-- It succeeds when none is lacking. -/
  gives : lacks = false → x = .ok y

namespace Settles

variable {α β : Type} {backend : String} {lacks lacks' : Bool} {x : Except ToolError α} {y : α}

theorem ok (y : α) : Settles backend false y (.ok y) :=
  ⟨fun h => absurd h (by decide), fun _ => rfl⟩

/-- One computation after another one lacks what either of them lacks. -/
theorem bind {f : α → Except ToolError β} {z : β} (hx : Settles backend lacks y x)
    (hf : Settles backend lacks' z (f y)) : Settles backend (lacks || lacks') z (x >>= f) := by
  cases hl : lacks with
  | true =>
    obtain ⟨k, hk⟩ := hx.fails hl
    exact ⟨fun _ => ⟨k, by rw [hk]; rfl⟩, fun h => by cases h⟩
  | false =>
    rw [hx.gives hl]
    exact hf

theorem map (f : α → β) (hx : Settles backend lacks y x) :
    Settles backend lacks (f y) (f <$> x) := by
  have hf : Settles backend (lacks || false) (f y) (x >>= fun a => .ok (f a)) := hx.bind (.ok _)
  rw [Bool.or_false] at hf
  exact hf

/-- Computations in turn lack what any of them lacks. -/
theorem mapM {bad : α → Bool} {g : α → β} {f : α → Except ToolError β} {xs : List α}
    (h : ∀ a ∈ xs, Settles backend (bad a) (g a) (f a)) :
    Settles backend (xs.any bad) (xs.map g) (xs.mapM f) := by
  induction xs with
  | nil => exact .ok _
  | cons a xs ih =>
    obtain ⟨ha, hxs⟩ := List.forall_mem_cons.mp h
    rw [List.mapM_cons, List.any_cons, List.map_cons]
    exact ha.bind ((ih hxs).map (g a :: ·))

/-- It is an error just when a value is lacking. -/
theorem exists_missingValue_iff (hx : Settles backend lacks y x) :
    (∃ k : ScalarKey, x = .error (.missingValue backend k.placeholder)) ↔ lacks = true := by
  refine ⟨fun ⟨k, hk⟩ => ?_, hx.fails⟩
  by_contra hl
  have hgives := hx.gives (Bool.eq_false_iff.mpr hl)
  rw [hk] at hgives
  cases hgives

end Settles

theorem settles_expandAll {backend : String} {expand : String → Except ToolError (List String)}
    {bad : String → Bool} {g : String → List String} {templates : List String}
    (h : ∀ s ∈ templates, Settles backend (bad s) (g s) (expand s)) :
    Settles backend (templates.any bad) (templates.flatMap g) (expandAll expand templates) := by
  have hall := (Settles.mapM h).map List.flatten
  rw [← List.flatMap_def] at hall
  exact hall

section Filled

variable {values : Values}

theorem BraceFree.append {s t : String} (hs : BraceFree s) (ht : BraceFree t) :
    BraceFree (s ++ t) := by
  simp only [BraceFree, String.toList_append, List.mem_append, not_or] at hs ht ⊢
  exact ⟨⟨hs.1, ht.1⟩, hs.2, ht.2⟩

/-- Texts without braces have none when they stand together. -/
theorem braceFree_intercalate {items : List String} (h : ∀ v ∈ items, BraceFree v) :
    BraceFree (" ".intercalate items) := by
  induction items with
  | nil => decide
  | cons v items ih =>
    obtain ⟨hv, hitems⟩ := List.forall_mem_cons.mp h
    cases items with
    | nil => simpa using hv
    | cons w items =>
      rw [String.intercalate_cons_cons]
      exact (hv.append (by decide)).append (ih hitems)

theorem Values.BraceFree.text (hfree : values.BraceFree) (k : CommandKey) (v : String)
    (h : values.text k = some v) : Template.BraceFree v := by
  cases k with
  | scalar k => exact hfree.scalar k v h
  | list k =>
    obtain rfl := Option.some.inj h
    exact braceFree_intercalate (hfree.items k)

variable {s : String}

/-- A template lacks a value just when there is a first key whose value is missing. -/
theorem missing?_eq_none_iff : missing? values s scalarKeys = none ↔ lacksValue values s = false := by
  have hkey : ∀ k : ScalarKey, decide (.key (.scalar k) ∈ (pieces s : List (Piece CommandKey))) =
      contains s k.placeholder := by
    intro k
    rw [placeholder_scalar, Bool.eq_iff_iff, decide_eq_true_iff, contains_placeholder_iff]
  rw [missing?, lacksValue, List.find?_eq_none, List.any_eq_false]
  simp only [hkey]

theorem settles_missing? {α : Type} (backend : String) (y : α) :
    Settles backend (lacksValue values s) y
      (match missing? values s scalarKeys with
      | some k => .error (.missingValue backend k.placeholder)
      | none => .ok y) := by
  cases hmissing : missing? values s scalarKeys with
  | none =>
    rw [missing?_eq_none_iff.mp hmissing]
    exact .ok y
  | some k =>
    refine ⟨fun _ => ⟨k, rfl⟩, fun h => ?_⟩
    rw [missing?_eq_none_iff.mpr h] at hmissing
    cases hmissing

/-- **A path is expanded unless it lacks a value.** -/
theorem settles_expandScalars (backend : String) (hfree : values.BraceFree) (hs : ¬ Nests s) :
    Settles backend (lacksValue values s) (filledPath values s)
      (expandScalars backend values s) := by
  rw [expandScalars_eq fun k => undisturbed_of_not_nests hfree.text hs (.scalar k)]
  exact settles_missing? backend _

/-- **An argument or script line is expanded unless it asks in vain.** -/
theorem settles_expandWhole (backend : String) (whole : List String → List String)
    (hfree : values.BraceFree) (hs : ¬ Nests s) :
    Settles backend (asksInVain values s) (filledTexts whole values s)
      (match wholeList? s with
      | some k => .ok (whole (values.items k))
      | none => expandText backend values s) := by
  rw [asksInVain, filledTexts]
  cases wholeList? s with
  | some k => exact .ok _
  | none =>
    rw [expandText_eq fun k => undisturbed_of_not_nests hfree.text hs k, substituteText]
    simp only [← lacksDuration_iff]
    cases hduration : lacksDuration values s with
    | true => exact .ok _
    | false => exact settles_missing? backend _

/-- **No key is left** in what is put in for an argument or script line that does not ask in
vain. -/
theorem contains_filledTexts {whole : List String → List String} (hfree : values.BraceFree)
    (hwhole : ∀ k, ∀ t ∈ whole (values.items k), BraceFree t) (hs : ¬ Nests s)
    (hasks : asksInVain values s = false) {t : String} (ht : t ∈ filledTexts whole values s)
    (k : CommandKey) : contains t (placeholder (Alphabet.keyword k)) = false := by
  rw [filledTexts] at ht
  rw [asksInVain] at hasks
  cases hlist : wholeList? s with
  | some l =>
    rw [hlist] at ht
    exact contains_eq_false_of_braceFree k (hwhole l t ht)
  | none =>
    rw [hlist] at ht hasks
    cases hduration : lacksDuration values s with
    | true => simp [hduration] at ht
    | false =>
      simp only [hduration, Bool.false_eq_true, if_false, List.mem_singleton] at ht
      subst ht
      refine contains_substitute hfree.text hs fun hkey => ?_
      cases k with
      | list k => rfl
      | scalar k =>
        simp only [hduration, Option.isNone_none, Bool.not_false, Bool.and_self, Bool.true_and,
          lacksValue, List.any_eq_false, Bool.and_eq_true, not_and, Bool.not_eq_true] at hasks
        have hsome := hasks k (by cases k <;> decide) hkey
        rwa [Option.isNone_eq_false_iff] at hsome

end Filled

end Template

namespace CommandBackend

open Template (Values filledTexts filledPath oneLine asksInVain lacksValue Settles Nests CommandKey
  settles_expandAll settles_expandWhole settles_expandScalars)

/-! ## Steps and invocations -/

section Filled

variable (c : Context) (workDir : Path) (values : Values)

/-- **A step lacks a value**: one of its arguments or script lines asks for one in vain, or the path
of its script lacks one. -/
def stepLacks (s : StepSettings) : Bool :=
  s.args.any (asksInVain values) ||
    s.script.any fun script => script.lines.any (asksInVain values) || lacksValue values script.path

/-- The command of a step. -/
def filledCommand (s : StepSettings) : ToolCommand :=
  ⟨s.program.getD c.program, s.args.flatMap (filledTexts id values), workDir, s.env⟩

/-- The lines of the script of a step. -/
def filledLines (script : ScriptSettings) : List String :=
  script.lines.flatMap (filledTexts oneLine values)

/-- The script of a step. -/
def filledScript (script : ScriptSettings) : ScriptFile :=
  ⟨workDir.child (filledPath values script.path), "\n".intercalate (filledLines values script) ++ "\n"⟩

/-- The artifacts of an operation: those that do not lack a value. -/
def filledArtifacts (o : Operation) : List Path :=
  (((Table.get? Table.textBefore o.keyword c.settings.artifacts).getD []).filter fun s =>
    !lacksValue values s).map fun s => workDir.child (filledPath values s)

/-- **The invocation that the templates of an operation tell.** -/
def filledInvocation (o : Operation) : Invocation where
  steps := (c.settings.steps o).map (filledCommand c workDir values)
  scripts := (c.settings.steps o).filterMap fun s => s.script.map (filledScript workDir values)
  artifacts := filledArtifacts c workDir values o

end Filled

variable {c : Context} {o : Operation} {values : Values}

/-- **A script is made unless a line or the path lacks a value.** -/
theorem settles_scriptOf (workDir : Path) (hfree : values.BraceFree) {script : ScriptSettings}
    (hlines : ∀ t ∈ script.lines, ¬ Nests t) (hpath : ¬ Nests script.path) :
    Settles c.name (script.lines.any (asksInVain values) || lacksValue values script.path)
      (filledScript workDir values script) (scriptOf c workDir values script) := by
  have hall : Settles c.name (script.lines.any (asksInVain values)) (filledLines values script)
      (Template.expandAll (Template.expandLine c.name values) script.lines) :=
    settles_expandAll fun t ht => settles_expandWhole c.name oneLine hfree (hlines t ht)
  exact hall.bind ((settles_expandScalars c.name hfree hpath).map fun path =>
    ScriptFile.mk (workDir.child path) ("\n".intercalate (filledLines values script) ++ "\n"))

/-- **A step is made unless it lacks a value.** -/
theorem settles_commandOf (workDir : Path) (hfree : values.BraceFree) {s : StepSettings}
    (hs : s ∈ c.settings.steps o) (htexts : ∀ t ∈ texts c o, ¬ Nests t)
    (hpaths : ∀ t ∈ paths c o, ¬ Nests t) :
    Settles c.name (stepLacks values s)
      (filledCommand c workDir values s, s.script.map (filledScript workDir values))
      (commandOf c workDir values s) := by
  have hargs : Settles c.name (s.args.any (asksInVain values))
      (s.args.flatMap (filledTexts id values))
      (Template.expandAll (Template.expandArgument c.name values) s.args) :=
    settles_expandAll fun t ht => settles_expandWhole c.name id hfree
      (htexts t (List.mem_flatMap.mpr ⟨s, hs, List.mem_append_left _ ht⟩))
  rw [stepLacks, Bool.or_comm, commandOf]
  cases hscript : s.script with
  | none =>
    exact hargs.map fun args =>
      (ToolCommand.mk (s.program.getD c.program) args workDir s.env, none)
  | some script =>
    have hlines : ∀ t ∈ script.lines, ¬ Nests t := fun t ht =>
      htexts t (List.mem_flatMap.mpr
        ⟨s, hs, List.mem_append_right _ (by simpa [hscript] using ht)⟩)
    have hpath : ¬ Nests script.path :=
      hpaths _ (List.mem_append_left _ (List.mem_flatMap.mpr ⟨s, hs, by simp [hscript]⟩))
    exact ((settles_scriptOf workDir hfree hlines hpath).map some).bind
      (hargs.map fun args => (ToolCommand.mk (s.program.getD c.program) args workDir s.env,
        some (filledScript workDir values script)))

theorem artifactsOf_eq (workDir : Path) (hfree : values.BraceFree)
    (hpaths : ∀ t ∈ paths c o, ¬ Nests t) :
    artifactsOf c o workDir values = filledArtifacts c workDir values o := by
  rw [artifactsOf, filledArtifacts, ← List.filterMap_eq_map, List.filterMap_filter]
  refine List.filterMap_congr fun s hs => ?_
  have hpath := settles_expandScalars c.name hfree (hpaths s (List.mem_append_right _ hs))
  cases hlacks : lacksValue values s with
  | true =>
    obtain ⟨k, hk⟩ := hpath.fails hlacks
    rw [hk]
    rfl
  | false =>
    rw [hpath.gives hlacks]
    rfl

/-- **An invocation is built unless a step lacks a value.** -/
theorem settles_invocationFor (workDir : Path) (hfree : values.BraceFree)
    (htexts : ∀ t ∈ texts c o, ¬ Nests t) (hpaths : ∀ t ∈ paths c o, ¬ Nests t) :
    Settles c.name ((c.settings.steps o).any (stepLacks values))
      (filledInvocation c workDir values o) (invocationFor c o workDir values) := by
  have hsteps := Settles.mapM fun s hs => settles_commandOf workDir hfree hs htexts hpaths
  have hall := hsteps.map fun commands =>
    ({ steps := commands.map (·.1), scripts := commands.filterMap (·.2),
       artifacts := artifactsOf c o workDir values } : Invocation)
  rw [List.map_map, List.filterMap_map, artifactsOf_eq workDir hfree hpaths] at hall
  rw [invocationFor, artifactsOf_eq workDir hfree hpaths]
  exact hall

/-- The texts of a list that stands on one line have no braces. -/
theorem braceFree_oneLine {items : List String} (h : ∀ v ∈ items, Template.BraceFree v) :
    ∀ t ∈ oneLine items, Template.BraceFree t := by
  intro t ht
  rw [oneLine] at ht
  split at ht
  · cases ht
  · obtain rfl := List.mem_singleton.mp ht
    exact Template.braceFree_intercalate h

/-- **No key is left** in the arguments and script lines of a step that does not lack a value. -/
theorem contains_filled {s : StepSettings} (hs : s ∈ c.settings.steps o) (hfree : values.BraceFree)
    (htexts : ∀ t ∈ texts c o, ¬ Nests t) (hlacks : stepLacks values s = false)
    (k : CommandKey) :
    (∀ t ∈ s.args.flatMap (filledTexts id values),
      Text.contains t (Template.placeholder (Template.Alphabet.keyword k)) = false) ∧
    ∀ script ∈ s.script, ∀ t ∈ filledLines values script,
      Text.contains t (Template.placeholder (Template.Alphabet.keyword k)) = false := by
  rw [stepLacks, Bool.or_eq_false_iff, List.any_eq_false] at hlacks
  obtain ⟨hargs, hscript⟩ := hlacks
  constructor
  · intro t ht
    obtain ⟨a, ha, hta⟩ := List.mem_flatMap.mp ht
    have hnest := htexts a (List.mem_flatMap.mpr ⟨s, hs, List.mem_append_left _ ha⟩)
    exact Template.contains_filledTexts hfree hfree.items hnest
      (Bool.eq_false_iff.mpr (hargs a ha)) hta k
  · intro script hmem t ht
    rw [hmem, Option.any_some, Bool.or_eq_false_iff, List.any_eq_false] at hscript
    obtain ⟨a, ha, hta⟩ := List.mem_flatMap.mp ht
    have hnest := htexts a (List.mem_flatMap.mpr
      ⟨s, hs, List.mem_append_right _ (by simpa [Option.mem_def.mp hmem] using ha)⟩)
    exact Template.contains_filledTexts hfree (fun k => braceFree_oneLine (hfree.items k)) hnest
      (Bool.eq_false_iff.mpr (hscript.1 a ha)) hta k

/-- Settings without a fault have commands for every operation that they offer. -/
theorem steps_ne_nil {s : BackendSettings} (hfault : fault? s = none) (ho : o ∈ operationsOf s) :
    s.steps o ≠ [] := by
  rw [fault?] at hfault
  split at hfault
  · cases hfault
  · split at hfault
    · cases hfault
    · rename_i hfind
      have hsteps := List.find?_eq_none.mp hfind o ho
      simpa using hsteps

/-! ## Backends -/

/-- The invocation of a backend for a request. -/
def Request.invocationBy (b : Backend) : Request → Except ToolError Invocation
  | .compile r => b.compileInvocation r
  | .simulate r => b.simulateInvocation r
  | .synthesize r => b.synthesizeInvocation r

/-- **The backend that settings configure on some machine**, with the program that is found
there. -/
def Configures (c : Context) (b : Backend) : Prop :=
  ∃ t searchPath shared, Backend.ofSettings t searchPath c.name c.settings shared = .ok b ∧
    c.program = ((Host.findProgram t searchPath c.settings.executable c.settings.installDir).map
      (·.text)).getD c.settings.executable

/-- An operation is offered when the settings tell it. -/
theorem supports_ofLists_iff {operations : List Operation} {flows : List String}
    {kinds : List GenericKind} :
    (Capabilities.ofLists operations flows kinds).supports o = true ↔ o ∈ operations := by
  have hall : o ∈ Operation.all := by cases o <;> decide
  simp [Capabilities.supports, Capabilities.ofLists, hall]

/-- **A configured backend** has settings without a fault, offers their operations and builds the
invocations of their templates. -/
theorem Configures.spec {b : Backend} (h : Configures c b) :
    fault? c.settings = none ∧
      (∀ o, b.capabilities.supports o = true ↔ o ∈ operationsOf c.settings) ∧
      ∀ r : Request, r.invocationBy b = r.invocation c := by
  obtain ⟨t, searchPath, shared, hb, hprogram⟩ := h
  obtain ⟨name, settings, program⟩ := c
  dsimp only at hb hprogram ⊢
  rw [Backend.ofSettings] at hb
  cases hfault : fault? settings with
  | some message =>
    rw [hfault] at hb
    cases hb
  | none =>
    rw [hfault] at hb
    cases hrules : rulesOf settings.rules with
    | error e =>
      rw [hrules] at hb
      cases hb
    | ok rules =>
      cases hdefaults : defaultRules with
      | error e =>
        rw [hrules, hdefaults] at hb
        cases hb
      | ok defaults =>
        rw [hrules, hdefaults] at hb
        obtain rfl := Except.ok.inj hb
        refine ⟨rfl, fun o => supports_ofLists_iff, fun r => ?_⟩
        rw [hprogram]
        cases r <;> rfl

/-- **An invocation is built wholly or not at all.** No value of the request has a brace, and no
template nests them. Then the request fails just when a step lacks a value, and names a key.
Otherwise the invocation has the commands of all steps in turn, and no key is left in their
arguments and in the lines of their scripts. A backend that the settings configure builds it, and
has some step for each operation that it offers. -/
theorem invocation_all_or_nothing (c : Context) (r : Request) (hfree : (r.values c).BraceFree)
    (hplain : ∀ s ∈ texts c r.operation ++ paths c r.operation, ¬ Nests s) :
    ((∃ k : Template.ScalarKey,
        r.invocation c = .error (.missingValue c.name k.placeholder)) ↔
      ∃ s ∈ c.settings.steps r.operation, stepLacks (r.values c) s = true) ∧
    ((∀ s ∈ c.settings.steps r.operation, stepLacks (r.values c) s = false) →
      r.invocation c = .ok (filledInvocation c r.workDir (r.values c) r.operation) ∧
      ∀ s ∈ c.settings.steps r.operation, ∀ k : CommandKey,
        (∀ t ∈ (filledCommand c r.workDir (r.values c) s).args,
          Text.contains t (Template.placeholder (Template.Alphabet.keyword k)) = false) ∧
        ∀ script ∈ s.script, ∀ t ∈ filledLines (r.values c) script,
          Text.contains t (Template.placeholder (Template.Alphabet.keyword k)) = false) ∧
    ∀ b, Configures c b → r.invocationBy b = r.invocation c ∧
      (b.capabilities.supports r.operation = true →
        (filledInvocation c r.workDir (r.values c) r.operation).steps ≠ []) := by
  have htexts : ∀ t ∈ texts c r.operation, ¬ Nests t := fun t ht =>
    hplain t (List.mem_append_left _ ht)
  have hpaths : ∀ t ∈ paths c r.operation, ¬ Nests t := fun t ht =>
    hplain t (List.mem_append_right _ ht)
  have hsettles := settles_invocationFor r.workDir hfree htexts hpaths
  refine ⟨?_, fun hlacks => ⟨?_, fun s hs k => ?_⟩, fun b hb => ?_⟩
  · rw [← List.any_eq_true]
    exact hsettles.exists_missingValue_iff
  · exact hsettles.gives (List.any_eq_false.mpr fun s hs => by simp [hlacks s hs])
  · exact contains_filled hs hfree htexts (hlacks s hs) k
  · obtain ⟨hfault, hsupports, hinvocation⟩ := hb.spec
    refine ⟨hinvocation r, fun hoffered hnil => ?_⟩
    exact steps_ne_nil hfault ((hsupports _).mp hoffered) (List.map_eq_nil_iff.mp hnil)

open Template (placeholder ScalarKey ListKey) in
/-- A backend that simulates in two steps. The first one has a script; with each list there are
texts around it or none, and the artifacts are told by the unit and by the part. -/
def scripted : Context where
  name := "fake"
  settings :=
    { executable := "faketool"
      simulate :=
        [{ args := ["-work", ScalarKey.library.placeholder, ListKey.files.placeholder,
             "-t=" ++ ScalarKey.duration.placeholder]
           script := some ⟨ScalarKey.entity.placeholder ++ ".do",
             ["add " ++ ListKey.files.placeholder, " " ++ ListKey.generics.placeholder,
              "run " ++ ScalarKey.duration.placeholder]⟩ },
         { program := some "viewer", args := [ScalarKey.entity.placeholder], env := [("LANG", "C")] }]
      artifacts := [("simulate",
        [ScalarKey.entity.placeholder ++ ".wlf", ScalarKey.part.placeholder ++ ".log"])] }
  program := "faketool"

/-- A request to simulate a unit of two files until it ends by itself. -/
def untimed : Request :=
  let file (path : String) : SourceFile :=
    { path := ⟨path⟩, library := "lib", kind := .vhdl, synthesize := true, generics := .empty,
      dependsOn := [], toolArgs := [] }
  .simulate
    { library := "lib", entity := "tb", generics := .empty, duration := none,
      files := [file "one.vhd", file "tb.vhd"], includes := [], workDir := ⟨"work"⟩ }

theorem braceFree_untimed : (untimed.values scripted).BraceFree where
  scalar k v hv := by
    have hall : ∀ k ∈ Template.scalarKeys, ∀ v ∈ (untimed.values scripted).scalar k,
        Template.BraceFree v := by
      decide +kernel
    exact hall k (by cases k <;> decide) v hv
  items k := by
    have hall : ∀ k ∈ Template.listKeys, ∀ v ∈ (untimed.values scripted).items k,
        Template.BraceFree v := by
      decide +kernel
    exact hall k (by cases k <;> decide)

/-- The invocation for a simulation without a limit on its time: the arguments and lines that ask
for the limit are left out, and so is the artifact that is told by the part. -/
theorem invocation_all_or_nothing_untimed :
    untimed.invocation scripted = .ok
      { steps :=
          [⟨"faketool", ["-work", "lib", "one.vhd", "tb.vhd"], ⟨"work"⟩, []⟩,
           ⟨"viewer", ["tb"], ⟨"work"⟩, [("LANG", "C")]⟩]
        scripts := [⟨⟨"work/tb.do"⟩, "add one.vhd tb.vhd\n"⟩]
        artifacts := [⟨"work/tb.wlf"⟩] } := by
  have hfilled := ((invocation_all_or_nothing scripted untimed braceFree_untimed
    (by decide +kernel)).2.1 (by decide +kernel)).1
  rw [hfilled]
  decide +kernel

end CommandBackend

end RtlFlow
