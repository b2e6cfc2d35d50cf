import RtlFlow.Proofs.Computation
import RtlFlow.Proofs.Tool.Insertion

/-! # How values come into invocations

An invocation is made of the templates of its operation, whichever way they are expanded
(`invocationWith`). A configured backend expands them one key after the other; the values of a
request stand in the invocation as they are where no text that is put in is mistaken for a key
(`invocation_verbatim`). -/

namespace RtlFlow

namespace Template

/-- **The ways in which the templates of a step are expanded.** -/
structure Expansion where
  /-- The arguments of a command. -/
  argument : String → Except ToolError (List String)
  /-- The lines of a script. -/
  line : String → Except ToolError (List String)
  /-- The path of a script or an artifact. -/
  path : String → Except ToolError String

/-- One key after the other. -/
def inTurn (backend : String) (values : Values) : Expansion :=
  ⟨expandArgument backend values, expandLine backend values, expandScalars backend values⟩

/-- All keys at once. -/
def atOnce (backend : String) (values : Values) : Expansion :=
  ⟨substituteArgument backend values, substituteLine backend values,
    substituteScalars backend values⟩

theorem expandAll_congr {f g : String → Except ToolError (List String)} {templates : List String}
    (h : ∀ s ∈ templates, f s = g s) : expandAll f templates = expandAll g templates := by
  rw [expandAll, expandAll, mapM_congr h]

end Template

namespace CommandBackend

open Template (Expansion Undisturbed Values CommandKey Piece inTurn atOnce genericText includeText
  substitute)

/-! ## Invocations -/

section With

variable (e : Expansion) (c : Context) (o : Operation) (workDir : Path)

/-- The script of a step. -/
def scriptWith (s : ScriptSettings) : Except ToolError ScriptFile := do
  let lines ← Template.expandAll e.line s.lines
  let path ← e.path s.path
  return ⟨workDir.child path, "\n".intercalate lines ++ "\n"⟩

/-- The command of a step, with its script. -/
def commandWith (s : StepSettings) : Except ToolError (ToolCommand × Option ScriptFile) := do
  let script ←
    match s.script with
    | some script => some <$> scriptWith e workDir script
    | none => pure none
  let args ← Template.expandAll e.argument s.args
  return (⟨s.program.getD c.program, args, workDir, s.env⟩, script)

/-- The artifacts of an operation. -/
def artifactsWith : List Path :=
  ((Table.get? Table.textBefore o.keyword c.settings.artifacts).getD []).filterMap fun s =>
    ((e.path s).toOption).map workDir.child

/-- **The invocation for an operation**, with its templates expanded in a given way. -/
def invocationWith : Except ToolError Invocation := do
  let commands ← (c.settings.steps o).mapM (commandWith e c workDir)
  return { steps := commands.map (·.1), scripts := commands.filterMap (·.2),
           artifacts := artifactsWith e c o workDir }

/-- The templates of an operation that are arguments and script lines. -/
def texts : List String :=
  (c.settings.steps o).flatMap fun s => s.args ++ s.script.toList.flatMap (·.lines)

/-- The templates of an operation that are paths of scripts and artifacts. -/
def paths : List String :=
  ((c.settings.steps o).flatMap fun s => s.script.toList.map (·.path)) ++
    (Table.get? Table.textBefore o.keyword c.settings.artifacts).getD []

end With

/-- A backend replaces one key after the other. -/
theorem invocationFor_eq_inTurn (c : Context) (o : Operation) (workDir : Path) (values : Values) :
    invocationFor c o workDir values = invocationWith (inTurn c.name values) c o workDir := by
  have hscript : scriptOf c workDir values = scriptWith (inTurn c.name values) workDir := by
    funext s
    rw [scriptOf, scriptWith, inTurn]
  have hcommand : commandOf c workDir values = commandWith (inTurn c.name values) c workDir := by
    funext s
    rw [commandOf, commandWith, hscript]
    cases s.script <;> rfl
  rw [invocationFor, invocationWith, hcommand, artifactsOf, artifactsWith, inTurn]

/-- **Expansions that agree on the templates make one invocation.** -/
theorem invocationWith_congr {e e' : Expansion} {c : Context} {o : Operation} (workDir : Path)
    (htexts : ∀ s ∈ texts c o, e.argument s = e'.argument s ∧ e.line s = e'.line s)
    (hpaths : ∀ s ∈ paths c o, e.path s = e'.path s) :
    invocationWith e c o workDir = invocationWith e' c o workDir := by
  have hartifacts : artifactsWith e c o workDir = artifactsWith e' c o workDir := by
    refine List.filterMap_congr fun s hs => ?_
    rw [hpaths s (List.mem_append_right _ hs)]
  have hcommand : ∀ s ∈ c.settings.steps o,
      commandWith e c workDir s = commandWith e' c workDir s := by
    intro s hs
    have hargs : Template.expandAll e.argument s.args = Template.expandAll e'.argument s.args :=
      Template.expandAll_congr fun t ht =>
        (htexts t (List.mem_flatMap.mpr ⟨s, hs, List.mem_append_left _ ht⟩)).1
    rw [commandWith, commandWith, hargs]
    cases hscript : s.script with
    | none => rfl
    | some script =>
      have hlines : Template.expandAll e.line script.lines =
          Template.expandAll e'.line script.lines :=
        Template.expandAll_congr fun t ht =>
          (htexts t (List.mem_flatMap.mpr
            ⟨s, hs, List.mem_append_right _ (by simpa [hscript] using ht)⟩)).2
      have hpath : e.path script.path = e'.path script.path :=
        hpaths _ (List.mem_append_left _ (List.mem_flatMap.mpr ⟨s, hs, by simp [hscript]⟩))
      dsimp only
      rw [scriptWith, scriptWith, hlines, hpath]
  rw [invocationWith, invocationWith, mapM_congr hcommand, hartifacts]

/-! ## Requests -/

/-- **A request for any operation.** -/
inductive Request where
  /-- A request to compile. -/
  | compile (r : CompileRequest)
  /-- A request to simulate. -/
  | simulate (r : SimulateRequest)
  /-- A request to synthesize. -/
  | synthesize (r : SynthesizeRequest)

namespace Request

/-- The operation that is asked for. -/
def operation : Request → Operation
  | .compile _ => .compile
  | .simulate _ => .simulate
  | .synthesize _ => .synthesize

/-- The directory in which the tool works. -/
def workDir : Request → Path
  | .compile r => r.workDir
  | .simulate r => r.workDir
  | .synthesize r => r.workDir

/-- The generics that are passed on. -/
def generics : Request → Generics
  | .compile r => r.file.generics
  | .simulate r => r.generics
  | .synthesize r => r.generics

/-- The precompiled libraries that are passed on. -/
def includes : Request → List IncludePath
  | .compile r => r.includes
  | .simulate r => r.includes
  | .synthesize _ => []

/-- The values of a request. -/
def values (c : Context) : Request → Values
  | .compile r => compileValues c r
  | .simulate r => simulateValues c r
  | .synthesize r => synthesizeValues c r

/-- The values of a request, with generics and precompiled libraries put into their formats at
once. -/
def plainValues (c : Context) (r : Request) : Values where
  scalar := (r.values c).scalar
  items
    | .generics =>
      r.generics.entries.map fun x => substitute (genericText x.1 x.2) (genericFormat c.settings)
    | .includes => r.includes.map fun i => substitute (includeText i) (includeFormat c.settings)
    | k => (r.values c).items k

/-- **The invocation for a request.** -/
def invocation (c : Context) (r : Request) : Except ToolError Invocation :=
  invocationFor c r.operation r.workDir (r.values c)

/-- **The invocation for a request in which every value stands as it is**: all keys of a template
are replaced at once. -/
def plainInvocation (c : Context) (r : Request) : Except ToolError Invocation :=
  invocationWith (atOnce c.name (r.plainValues c)) c r.operation r.workDir

/-- **A request none of whose values is mistaken for a key**, in any of the templates. -/
structure IsUndisturbed (c : Context) (r : Request) : Prop where
  /-- The format of generics. -/
  generics : ∀ x ∈ r.generics.entries, ∀ k,
    Undisturbed (genericText x.1 x.2) (genericFormat c.settings) k
  /-- The format of precompiled libraries. -/
  includes : ∀ i ∈ r.includes, ∀ k, Undisturbed (includeText i) (includeFormat c.settings) k
  /-- Arguments and script lines. -/
  texts : ∀ s ∈ texts c r.operation, ∀ k, Undisturbed (r.plainValues c).text s k
  /-- The paths of scripts and artifacts, in which only keys for one text are replaced. -/
  paths : ∀ s ∈ paths c r.operation, ∀ k, Undisturbed (r.plainValues c).text s (.scalar k)

theorem plainValues_eq {c : Context} {r : Request} (h : r.IsUndisturbed c) :
    r.plainValues c = r.values c := by
  have hgenerics := genericArgs_eq h.generics
  have hincludes := includeArgs_eq h.includes
  have hitems : (r.plainValues c).items = (r.values c).items := by
    funext k
    cases k with
    | generics =>
      rw [plainValues, ← hgenerics]
      cases r <;> rfl
    | includes =>
      rw [plainValues, ← hincludes]
      cases r <;> rfl
    | files => rfl
    | constraints => rfl
    | extra => rfl
  have hfields : r.plainValues c = ⟨(r.values c).scalar, (r.plainValues c).items⟩ := rfl
  rw [hfields, hitems]

end Request

/-- **Values stand in an invocation as they are, unless one is mistaken for a key**: when each key
is found, at its turn, only where the template or format has it, all keys of a template could as
well be replaced at once, and the request fails only for a key of the template itself that has no
value. Where the template has no braces besides its keys and the texts close theirs, a key is found
elsewhere only in a text that was put in before its turn. -/
theorem invocation_verbatim (c : Context) (r : Request) :
    (r.IsUndisturbed c → r.invocation c = r.plainInvocation c) ∧
      ∀ (s : String) (k : CommandKey),
        .char '\x7b' ∉ (Template.pieces s : List (Piece CommandKey)) →
        (∀ i v, .key i ∈ (Template.pieces s : List (Piece CommandKey)) →
          (r.plainValues c).text i = some v → Template.Closed v.toList ∧
            (i ∈ Template.before k → Text.occurrences (Template.mark k) v.toList = 0)) →
        Undisturbed (r.plainValues c).text s k := by
  constructor
  · intro h
    rw [Request.invocation, Request.plainInvocation, invocationFor_eq_inTurn,
      ← r.plainValues_eq h]
    refine invocationWith_congr r.workDir (fun s hs => ⟨?_, ?_⟩) fun s hs => ?_
    · simp only [inTurn, atOnce, Template.expandArgument_eq (h.texts s hs)]
    · simp only [inTurn, atOnce, Template.expandLine_eq (h.texts s hs)]
    · simp only [inTurn, atOnce, Template.expandScalars_eq (h.paths s hs)]
  · intro s k hplain htexts
    exact Template.undisturbed_of_closed hplain (fun i v hi hv => (htexts i v hi hv).1)
      fun i v hi hv => (htexts i v hi hv).2

open Template in
/-- A backend that compiles with one command, which names the library, the file and its generics. -/
def namingAll : Context where
  name := "fake"
  settings :=
    { executable := "faketool"
      compile := [{ args := ["-work", ScalarKey.library.placeholder, ScalarKey.file.placeholder,
        ListKey.generics.placeholder] }] }
  program := "faketool"

/-- A request to compile a file. -/
def compileFile (path library : String) (generics : Generics) : Request :=
  .compile
    { file :=
        { path := ⟨path⟩, library, kind := .vhdl, synthesize := true, generics, dependsOn := [],
          toolArgs := [] }
      workDir := ⟨"work"⟩
      includes := [] }

open Template in
/-- A request with keys for texts whose turn is over when they come in: the library has the name of
the key of the file, and the generic has the key of its name as its value. -/
def earlierKeys : Request :=
  compileFile "one.vhd" ScalarKey.file.placeholder ⟨[("depth", .string (placeholder "name"))]⟩

theorem isUndisturbed_earlierKeys : earlierKeys.IsUndisturbed namingAll where
  generics x hx k := by
    obtain rfl := List.mem_singleton.mp hx
    cases k <;> decide +kernel
  includes i hi := by cases hi
  texts s hs k := by
    have hall : ∀ s ∈ texts namingAll earlierKeys.operation,
        ∀ k ∈ (Template.Alphabet.keys : List CommandKey),
          Undisturbed (earlierKeys.plainValues namingAll).text s k := by
      decide +kernel
    exact hall s hs k (Template.Alphabet.mem_keys k)
  paths s hs := by
    have hnone : paths namingAll earlierKeys.operation = [] := by decide +kernel
    exact absurd (hnone ▸ hs) List.not_mem_nil

open Template in
/-- A library whose name is the key of the file stands in the command as it is, and so does a
generic whose value is the key of its name. -/
theorem invocation_verbatim_earlierKeys :
    earlierKeys.invocation namingAll = earlierKeys.plainInvocation namingAll ∧
      (earlierKeys.plainInvocation namingAll).map (fun i => i.steps.map (·.args)) =
        .ok [["-work", ScalarKey.file.placeholder, "one.vhd",
          "-gdepth=" ++ placeholder "name"]] ∧
      Undisturbed (earlierKeys.plainValues namingAll).text ScalarKey.library.placeholder
        (.scalar .library) := by
  refine ⟨(invocation_verbatim _ _).1 isUndisturbed_earlierKeys, by decide +kernel, ?_⟩
  refine (invocation_verbatim _ _).2 _ _ (by decide +kernel) fun i v hi hv => ?_
  have hpieces : (pieces ScalarKey.library.placeholder : List (Piece CommandKey)) =
      [.key (.scalar .library)] := by
    decide +kernel
  rw [hpieces, List.mem_singleton, Piece.key.injEq] at hi
  subst hi
  have hv : v = ScalarKey.file.placeholder := (Option.some.inj hv).symm
  subst hv
  refine ⟨fun rest hrest => ?_, fun hbefore => ?_⟩
  · have hchars : ScalarKey.file.placeholder.toList = ['\x7b', 'f', 'i', 'l', 'e', '\x7d'] := by
      decide +kernel
    rw [hchars] at hrest
    have hrest : rest = ['f', 'i', 'l', 'e', '\x7d'] := by simpa [List.suffix_cons_iff] using hrest
    simp [hrest]
  · decide +kernel

open Template in
/-- **Values do not always stand as they are**: the key of the library in the path of a file is
replaced, the key of a part in it makes the request fail, and the key of the value in the name of a
generic is replaced. -/
theorem not_forall_plainInvocation :
    (¬ ∀ (c : Context) (r : Request), r.invocation c = r.plainInvocation c) ∧
      (compileFile ("lib/" ++ ScalarKey.library.placeholder ++ ".vhd") "lib" .empty).invocation
          namingAll =
        .ok { steps := [⟨"faketool", ["-work", "lib", "lib/lib.vhd"], ⟨"work"⟩, []⟩] } ∧
      (compileFile ("lib/" ++ ScalarKey.part.placeholder ++ ".vhd") "lib" .empty).invocation
          namingAll =
        .error (.missingValue "fake" ScalarKey.part.placeholder) ∧
      (compileFile "lib/one.vhd" "lib" ⟨[(placeholder "value", .string "v")]⟩).invocation
          namingAll =
        .ok { steps := [⟨"faketool", ["-work", "lib", "lib/one.vhd", "-gv=v"], ⟨"work"⟩, []⟩] } := by
  refine ⟨fun hall => ?_, by decide +kernel, by decide +kernel, by decide +kernel⟩
  have heq := hall namingAll
    (compileFile ("lib/" ++ ScalarKey.library.placeholder ++ ".vhd") "lib" .empty)
  revert heq
  decide +kernel

end CommandBackend

end RtlFlow
