import RtlFlow.Proofs.Tool.Invocations
import RtlFlow.Proofs.Tool.Starts

/-! # The scripts of steps

A step may have a script. The scripts of all steps are written before the first command is started,
so of two steps whose scripts have one path the first one is run with the script of the second one.
A step is run with its own script when no later one is written to the same place
(`CommandBackend.script_at_start`). -/

namespace RtlFlow

namespace CommandBackend

open Template (expandAll expandLine expandScalars)
open Launch (Start Carries Leaves lastAt? writeScripts)

/-! ## Steps of an invocation -/

variable {c : Context} {o : Operation} {workDir : Path} {values : Template.Values} {i : Invocation}

/-- **The commands and scripts of an invocation** are those of its steps. -/
theorem exists_of_invocationFor_eq_ok (h : invocationFor c o workDir values = .ok i) :
    ∃ made, (c.settings.steps o).mapM (commandOf c workDir values) = .ok made ∧
      i.steps = made.map (·.1) ∧ i.scripts = made.filterMap (·.2) := by
  obtain ⟨made, hmade, h⟩ := bind_eq_ok_iff.mp h
  cases h
  exact ⟨made, hmade, rfl, rfl⟩

/-- **A script is its lines**, with a line end behind each of them. -/
theorem exists_of_scriptOf_eq_ok {script : ScriptSettings} {f : ScriptFile}
    (h : scriptOf c workDir values script = .ok f) :
    ∃ lines path, expandAll (expandLine c.name values) script.lines = .ok lines ∧
      expandScalars c.name values script.path = .ok path ∧
      f = ⟨workDir.child path, "\n".intercalate lines ++ "\n"⟩ := by
  obtain ⟨lines, hlines, h⟩ := bind_eq_ok_iff.mp h
  obtain ⟨path, hpath, h⟩ := bind_eq_ok_iff.mp h
  cases h
  exact ⟨lines, path, hlines, hpath, rfl⟩

/-- **A step is made with its script**, if the settings tell one. -/
theorem script_of_commandOf {step : StepSettings} {command : ToolCommand} {f? : Option ScriptFile}
    (h : commandOf c workDir values step = .ok (command, f?)) :
    (step.script = none ∧ f? = none) ∨
      ∃ script f, step.script = some script ∧ f? = some f ∧
        scriptOf c workDir values script = .ok f := by
  rw [commandOf] at h
  cases hscript : step.script with
  | none =>
    rw [hscript] at h
    dsimp only at h
    obtain ⟨f?', hnone, h⟩ := bind_eq_ok_iff.mp h
    obtain ⟨args, -, h⟩ := bind_eq_ok_iff.mp h
    cases hnone
    cases h
    exact Or.inl ⟨rfl, rfl⟩
  | some script =>
    rw [hscript] at h
    dsimp only at h
    obtain ⟨f?', hsome, h⟩ := bind_eq_ok_iff.mp h
    obtain ⟨args, -, h⟩ := bind_eq_ok_iff.mp h
    cases h
    cases hf : scriptOf c workDir values script with
    | error e =>
      rw [hf] at hsome
      cases hsome
    | ok f =>
      rw [hf] at hsome
      cases hsome
      exact Or.inr ⟨script, f, rfl, rfl, hf⟩

/-! ## What a step is run with -/

/-- **A step is run with the script that was written last** to the place of its own: the scripts of
all steps are written before the first one is run. So it is run with its own lines when no later
step has a script in that place. The machine is one that leaves the scripts alone. -/
theorem script_at_start {ρ : Type} {launch : Launcher} {c : Context} {r : Request} {i : Invocation}
    (hbuilt : r.invocation c = .ok i) (hleaves : ∀ f ∈ i.scripts, Leaves launch f.path)
    {limit : Option Duration} {s : Session ρ} {starts : List Start} {ending : Launch.Ending ρ}
    (hrun : Carries launch { i with timeout := limit } s starts ending)
    {n : Nat} {x : Start} (hx : starts[n]? = some x) :
    ∃ step, (c.settings.steps r.operation)[n]? = some step ∧
      (∃ f?, commandOf c r.workDir (r.values c) step = .ok (x.command, f?)) ∧
      ∀ script ∈ step.script, ∃ lines path f g,
        expandAll (expandLine c.name (r.values c)) script.lines = .ok lines ∧
        expandScalars c.name (r.values c) script.path = .ok path ∧
        f = ⟨r.workDir.child path, "\n".intercalate lines ++ "\n"⟩ ∧
        lastAt? ((writeScripts i.scripts).run s).2.files f.path i.scripts = some g ∧
        x.files.read f.path = .ok g.content.toUTF8 ∧
        ((∀ m > n, ∀ later ∈ (c.settings.steps r.operation)[m]?, ∀ script' ∈ later.script, ∀ f',
          scriptOf c r.workDir (r.values c) script' = .ok f' →
            ((writeScripts i.scripts).run s).2.files.locate f'.path ≠
              ((writeScripts i.scripts).run s).2.files.locate f.path) → g = f) := by
  obtain ⟨made, hmade, hsteps, hscripts⟩ := exists_of_invocationFor_eq_ok hbuilt
  -- the command of the start is that of a step
  have hcommand : i.steps[n]? = some x.command := by
    obtain ⟨rest, hrest⟩ := hrun.commands
    have hrest : starts.map (·.command) ++ rest = i.steps := hrest
    have hlength : n < (starts.map (·.command)).length := by
      simpa using (List.getElem?_eq_some_iff.mp hx).1
    rw [← hrest, List.getElem?_append_left hlength, List.getElem?_map, hx]
    rfl
  rw [hsteps, List.getElem?_map, Option.map_eq_some_iff] at hcommand
  obtain ⟨⟨command, f?⟩, hn, rfl⟩ := hcommand
  obtain ⟨step, hstep, hmadeStep⟩ := exists_getElem?_of_mapM hmade hn
  refine ⟨step, hstep, ⟨f?, hmadeStep⟩, fun script hscript => ?_⟩
  obtain ⟨hnone, -⟩ | ⟨script', f, hscript', rfl, hf⟩ := script_of_commandOf hmadeStep
  · rw [hnone] at hscript
    cases hscript
  obtain rfl : script' = script := Option.some.inj (hscript'.symm.trans hscript)
  obtain ⟨lines, path, hlines, hpath, hcontent⟩ := exists_of_scriptOf_eq_ok hf
  have hmem : f ∈ i.scripts := by
    rw [hscripts]
    exact List.mem_filterMap.mpr ⟨_, List.mem_of_getElem? hn, rfl⟩
  obtain ⟨g, hg, hread⟩ := hrun.read hmem (hleaves f hmem) x (List.mem_of_getElem? hx)
  refine ⟨lines, path, f, g, hlines, hpath, hcontent, hg, hread, fun hlater => ?_⟩
  -- the scripts behind that of the step are those of later steps
  have hsplit : i.scripts =
      (made.take n).filterMap (·.2) ++ f :: (made.drop (n + 1)).filterMap (·.2) := by
    obtain ⟨hlt, hat⟩ := List.getElem?_eq_some_iff.mp hn
    rw [hscripts]
    conv_lhs => rw [← List.take_append_drop n made, List.drop_eq_getElem_cons hlt, hat]
    simp
  have hlast : ∀ f' ∈ (made.drop (n + 1)).filterMap (·.2),
      ((writeScripts i.scripts).run s).2.files.locate f'.path ≠
        ((writeScripts i.scripts).run s).2.files.locate f.path := by
    intro f' hf'
    obtain ⟨⟨command', f'?⟩, hdrop, rfl⟩ := List.mem_filterMap.mp hf'
    obtain ⟨m, hm⟩ := List.mem_iff_getElem?.mp hdrop
    rw [List.getElem?_drop] at hm
    obtain ⟨later, hat, hmadeLater⟩ := exists_getElem?_of_mapM hmade hm
    obtain ⟨-, hnone⟩ | ⟨script', f'', hscript', heq, hf''⟩ := script_of_commandOf hmadeLater
    · cases hnone
    · obtain rfl := Option.some.inj heq
      exact hlater _ (by omega) later hat script' hscript' f' hf''
  have hown := Launch.lastAt?_of_later ((made.take n).filterMap (·.2)) hlast
  rw [← hsplit, hg] at hown
  exact Option.some.inj hown

/-- A backend that compiles in two steps, each with a script. -/
def twoScripts (path path' : String) : Context where
  name := "fake"
  settings :=
    { executable := "faketool"
      compile :=
        [{ program := some "sh", args := [path], script := some ⟨path, ["echo one"]⟩ },
         { program := some "sh", args := [path'], script := some ⟨path', ["echo two"]⟩ }] }
  program := "faketool"

/-- The invocation that it builds in the directory `work`. -/
def twoScriptsInvocation (path path' : String) : Invocation where
  steps := [⟨"sh", [path], ⟨"work"⟩, []⟩, ⟨"sh", [path'], ⟨"work"⟩, []⟩]
  scripts := [⟨⟨"work/" ++ path⟩, "echo one\n"⟩, ⟨⟨"work/" ++ path'⟩, "echo two\n"⟩]

/-- A machine on which every process succeeds at once and does nothing. -/
def idleLauncher : Launcher where
  spawn _ _ t := .ok ⟨some ⟨0, .ok (some 0), .silent t⟩, fun _ => .silent t⟩
  begun := 0
  latest := Launch.lastInstant
  cancelledAt := none
  turn _ := 0

theorem leaves_idleLauncher (p : Path) : Leaves idleLauncher p := by
  intro now c t process hspawn
  obtain rfl := Except.ok.inj hspawn
  refine ⟨fun e he n => ?_, fun k n => rfl⟩
  obtain rfl := Option.some.inj he
  rfl

/-- A session without files. -/
def noFiles : Session Unit := ⟨⟨[], []⟩, false, ()⟩

/-- On the idle machine the first step of an invocation is started, when the invocation succeeds. -/
theorem exists_first_start {i : Invocation} {command : ToolCommand} {rest : List ToolCommand}
    (hsteps : i.steps = command :: rest)
    (hok : ((Launch.carryOut idleLauncher i).run noFiles).1 = .ok ⟨.exited 0, "", "", .zero⟩) :
    ∃ starts ending x, Carries idleLauncher i noFiles starts ending ∧ starts[0]? = some x := by
  obtain ⟨starts, hcarries⟩ : ∃ starts, Carries idleLauncher i noFiles starts _ :=
    Launch.run_carryOut_iff.mp rfl
  have hcommands := hcarries.commands_of_exited hok rfl
  rw [hsteps] at hcommands
  cases starts with
  | nil => cases hcommands
  | cons x starts => exact ⟨_, _, x, hcarries, rfl⟩

/-- Of two steps with scripts in two places, the first one is run with its own. -/
theorem script_at_start_twoScripts : ∃ starts ending x,
    Carries idleLauncher (twoScriptsInvocation "one.sh" "two.sh") noFiles starts ending ∧
      starts[0]? = some x ∧ x.files.read ⟨"work/one.sh"⟩ = .ok "echo one\n".toUTF8 := by
  obtain ⟨starts, ending, x, hcarries, hx⟩ :=
    exists_first_start (i := twoScriptsInvocation "one.sh" "two.sh") rfl (by decide +kernel)
  have hbuilt : (compileFile "one.vhd" "lib" .empty).invocation (twoScripts "one.sh" "two.sh") =
      .ok (twoScriptsInvocation "one.sh" "two.sh") := by
    decide +kernel
  obtain ⟨step, hstep, -, hscript⟩ := script_at_start hbuilt (fun f _ => leaves_idleLauncher f.path)
    hcarries hx
  obtain rfl := Option.some.inj hstep
  obtain ⟨lines, path, f, g, hlines, hpath, hf, hg, hread, -⟩ := hscript _ rfl
  have hlines' : lines = ["echo one"] := Except.ok.inj (hlines.symm.trans (by decide +kernel))
  have hpath' : path = "one.sh" := Except.ok.inj (hpath.symm.trans (by decide +kernel))
  subst hlines' hpath' hf
  have hlast : Launch.lastAt?
      ((writeScripts (twoScriptsInvocation "one.sh" "two.sh").scripts).run noFiles).2.files
      ⟨"work/one.sh"⟩ (twoScriptsInvocation "one.sh" "two.sh").scripts =
        some ⟨⟨"work/one.sh"⟩, "echo one\n"⟩ := by
    decide +kernel
  obtain rfl := Option.some.inj (hlast.symm.trans hg)
  exact ⟨starts, ending, x, hcarries, hx, hread⟩

/-- **A step is not always run with its own script**: when the scripts of two steps have one path,
the first step is run with the script of the second one. -/
theorem not_forall_own_script :
    ¬ ∀ (launch : Launcher) (c : Context) (r : Request) (i : Invocation) (s : Session Unit)
      (starts : List Start) (ending : Launch.Ending Unit),
      r.invocation c = .ok i → (∀ f ∈ i.scripts, Leaves launch f.path) →
      Carries launch i s starts ending →
      ∀ (n : Nat) (x : Start) (step : StepSettings) (script : ScriptSettings) (f : ScriptFile),
        starts[n]? = some x → (c.settings.steps r.operation)[n]? = some step →
        step.script = some script → scriptOf c r.workDir (r.values c) script = .ok f →
        x.files.read f.path = .ok f.content.toUTF8 := by
  intro hall
  obtain ⟨starts, ending, x, hcarries, hx⟩ :=
    exists_first_start (i := twoScriptsInvocation "run.sh" "run.sh") rfl (by decide +kernel)
  have hbuilt : (compileFile "one.vhd" "lib" .empty).invocation (twoScripts "run.sh" "run.sh") =
      .ok (twoScriptsInvocation "run.sh" "run.sh") := by
    decide +kernel
  have hclaimed := hall idleLauncher _ _ _ noFiles starts ending hbuilt
    (fun f _ => leaves_idleLauncher f.path) hcarries 0 x _ ⟨"run.sh", ["echo one"]⟩
    ⟨⟨"work/run.sh"⟩, "echo one\n"⟩ hx rfl rfl (by decide +kernel)
  obtain ⟨g, hg, hread⟩ := hcarries.read (f := ⟨⟨"work/run.sh"⟩, "echo one\n"⟩)
    (by decide +kernel) (leaves_idleLauncher _) x (List.mem_of_getElem? hx)
  have hlast : Launch.lastAt?
      ((writeScripts (twoScriptsInvocation "run.sh" "run.sh").scripts).run noFiles).2.files
      ⟨"work/run.sh"⟩ (twoScriptsInvocation "run.sh" "run.sh").scripts =
        some ⟨⟨"work/run.sh"⟩, "echo two\n"⟩ := by
    decide +kernel
  obtain rfl := Option.some.inj (hg.symm.trans hlast)
  have hsame : "echo two\n".toUTF8 = "echo one\n".toUTF8 :=
    Except.ok.inj (hread.symm.trans hclaimed)
  revert hsame
  decide +kernel

end CommandBackend

end RtlFlow
