import RtlFlow.Proofs.Host.Additions
import RtlFlow.Proofs.Tool.Waiting

/-! # The starts of a run

To carry out an invocation its scripts are written, and then its commands are started in turn. A run
is told with all its starts, each with the files that the process finds (`Launch.Runs`,
`Launch.Carries`); carrying out an invocation gives exactly what such a run gives
(`Launch.run_carryOut_iff`). When the machine leaves the scripts alone, every process finds in the
place of a script what was written there last (`Launch.Carries.read`). -/

namespace RtlFlow

namespace SessionAction

variable {ρ ε ε' α β : Type}

/-- **An action behind another one** runs on the session that that one leaves, unless that fails. -/
theorem run_bind (a : SessionAction ρ ε α) (f : α → SessionAction ρ ε β) (s : Session ρ) :
    (a >>= f).run s =
      match a.run s with
      | (.ok x, s') => (f x).run s'
      | (.error e, s') => (.error e, s') := by
  unfold ExceptT.run
  simp only [bind, ExceptT.bind, ExceptT.mk, StateT.bind, ExceptT.bindCont]
  cases a s with
  | mk reply s' => cases reply <;> rfl

theorem run_onFiles (a : FileAction ε α) (s : Session ρ) :
    (onFiles a : SessionAction ρ ε α).run s =
      ((a.run s.files).1, { s with files := (a.run s.files).2 }) := rfl

theorem run_get (s : Session ρ) : (get : SessionAction ρ ε (Session ρ)).run s = (.ok s, s) := rfl

theorem run_modify (f : Session ρ → Session ρ) (s : Session ρ) :
    (modify f : SessionAction ρ ε PUnit).run s = (.ok ⟨⟩, f s) := rfl

theorem run_adapt (f : ε → ε') (a : SessionAction ρ ε α) (s : Session ρ) :
    (ExceptT.adapt f a).run s = ((a.run s).1.mapError f, (a.run s).2) := rfl

theorem run_lift (x : Except ε α) (s : Session ρ) :
    (liftM x : SessionAction ρ ε α).run s = (x, s) := rfl

end SessionAction

namespace Launch

open SessionAction (run_bind run_onFiles)
open FileAction (run_adapt)

variable {ρ : Type}

/-- **The start of a process.** -/
structure Start where
  /-- The command. -/
  command : ToolCommand
  /-- The files that the process finds. -/
  files : FileTree

/-- What a run gives, with the session that it leaves. -/
abbrev Ending (ρ : Type) := Except NoResult ToolResult × Session ρ

/-- **The runs of commands in turn** from an instant on, with their starts. -/
inductive Runs (launch : Launcher) (limits : Limits) :
    ToolResult → Nat → List ToolCommand → Session ρ → List Start → Ending ρ → Prop
  /-- No command is left. -/
  | done (r : ToolResult) (now : Nat) (s : Session ρ) : Runs launch limits r now [] s [] (.ok r, s)
  /-- The work directory cannot be created. -/
  | noDirectory {r : ToolResult} {now : Nat} {c : ToolCommand} {rest : List ToolCommand}
      {s : Session ρ} {e : FilesystemError} {t : FileTree}
      (hdirectory : (Host.ensureDir c.cwd).run s.files = (.error e, t)) :
      Runs launch limits r now (c :: rest) s []
        (.error (notInvoked c e.message), { s with files := t })
  /-- The command gives no result. -/
  | noResult {r : ToolResult} {now : Nat} {c : ToolCommand} {rest : List ToolCommand}
      {s : Session ρ} {t t' : FileTree} {e : NoResult}
      (hdirectory : (Host.ensureDir c.cwd).run s.files = (.ok (), t))
      (hawait : (await launch limits now c).run t = (.error e, t')) :
      Runs launch limits r now (c :: rest) s [⟨c, t⟩] (.error e, { s with files := t' })
  /-- The process does not exit with code zero. -/
  | last {r : ToolResult} {now : Nat} {c : ToolCommand} {rest : List ToolCommand}
      {s : Session ρ} {t t' : FileTree} {o : StepOutput}
      (hdirectory : (Host.ensureDir c.cwd).run s.files = (.ok (), t))
      (hawait : (await launch limits now c).run t = (.ok o, t')) (hstatus : o.status ≠ .exited 0) :
      Runs launch limits r now (c :: rest) s [⟨c, t⟩]
        (.ok (extend launch r o), { s with files := t' }.hearing limits.cancellation o.ended)
  /-- The process exits with code zero, and the commands behind it follow. -/
  | next {r : ToolResult} {now : Nat} {c : ToolCommand} {rest : List ToolCommand}
      {s : Session ρ} {t t' : FileTree} {o : StepOutput} {starts : List Start} {ending : Ending ρ}
      (hdirectory : (Host.ensureDir c.cwd).run s.files = (.ok (), t))
      (hawait : (await launch limits now c).run t = (.ok o, t')) (hstatus : o.status = .exited 0)
      (hrest : Runs launch limits (extend launch r o) o.ended rest
        ({ s with files := t' }.hearing limits.cancellation o.ended) starts ending) :
      Runs launch limits r now (c :: rest) s (⟨c, t⟩ :: starts) ending

/-- **The runs of an invocation**, with their starts. -/
inductive Carries (launch : Launcher) (i : Invocation) (s : Session ρ) :
    List Start → Ending ρ → Prop
  /-- A script cannot be written. -/
  | unwritten {e : ToolError} {s' : Session ρ}
      (hscripts : (writeScripts i.scripts).run s = (.error e, s')) :
      Carries launch i s [] (.error (.error e), s')
  /-- The scripts are written, but the clock cannot tell the deadline. -/
  | noDeadline {e : NoResult} {s' : Session ρ}
      (hscripts : (writeScripts i.scripts).run s = (.ok (), s'))
      (hlimits : limitsOf launch i.timeout s'.cancelled = .error e) :
      Carries launch i s [] (.error e, s')
  /-- The scripts are written, and the commands run in turn. -/
  | written {s' : Session ρ} {limits : Limits} {starts : List Start} {ending : Ending ρ}
      (hscripts : (writeScripts i.scripts).run s = (.ok (), s'))
      (hlimits : limitsOf launch i.timeout s'.cancelled = .ok limits)
      (hruns : Runs launch limits noneYet launch.begun i.steps
        (s'.hearing limits.cancellation launch.begun) starts ending) :
      Carries launch i s starts ending

variable {launch : Launcher} {limits : Limits} {r : ToolResult} {now : Nat} {c : ToolCommand}
  {cs : List ToolCommand} {s s' : Session ρ} {starts : List Start} {ending : Ending ρ}
  {i : Invocation}

/-! ## Carrying out an invocation -/

theorem run_runStep (launch : Launcher) (limits : Limits) (now : Nat) (c : ToolCommand)
    (t : FileTree) :
    (runStep launch limits now c).run t =
      match (Host.ensureDir c.cwd).run t with
      | (.error e, t') => (.error (notInvoked c e.message), t')
      | (.ok _, t') => (await launch limits now c).run t' := by
  rw [runStep, FileAction.run_bind, run_adapt]
  rcases (Host.ensureDir c.cwd).run t with ⟨e | ⟨⟩, t'⟩ <;> rfl

/-- **The commands from a first one on**: it runs, and those behind it run when it exits with code
zero. -/
theorem run_runSteps_cons (launch : Launcher) (limits : Limits) (r : ToolResult) (now : Nat)
    (c : ToolCommand) (cs : List ToolCommand) (s : Session ρ) :
    (runSteps launch limits r now (c :: cs)).run s =
      match (runStep launch limits now c).run s.files with
      | (.error e, t) => (.error e, { s with files := t })
      | (.ok o, t) =>
        if o.status = .exited 0 then
          (runSteps launch limits (extend launch r o) o.ended cs).run
            ({ s with files := t }.hearing limits.cancellation o.ended)
        else
          (.ok (extend launch r o), { s with files := t }.hearing limits.cancellation o.ended) := by
  rw [runSteps, run_bind, run_onFiles]
  rcases (runStep launch limits now c).run s.files with ⟨e | o, t⟩
  · rfl
  · dsimp only
    rw [run_bind, SessionAction.run_modify]
    dsimp only
    by_cases hstatus : o.status = .exited 0
    · rw [if_pos hstatus, if_pos hstatus]
    · rw [if_neg hstatus, if_neg hstatus]
      rfl

theorem run_carryOut (launch : Launcher) (i : Invocation) (s : Session ρ) :
    (carryOut launch i).run s =
      match (writeScripts i.scripts).run s with
      | (.error e, s') => (.error (.error e), s')
      | (.ok _, s') =>
        match limitsOf launch i.timeout s'.cancelled with
        | .error e => (.error e, s')
        | .ok limits =>
          (runSteps launch limits noneYet launch.begun i.steps).run
            (s'.hearing limits.cancellation launch.begun) := by
  rw [carryOut, run_bind, SessionAction.run_adapt]
  rcases (writeScripts i.scripts).run s with ⟨e | ⟨⟩, s'⟩
  · rfl
  · dsimp only [Except.mapError]
    rw [run_bind, SessionAction.run_get]
    dsimp only
    rw [run_bind, SessionAction.run_lift]
    cases limitsOf launch i.timeout s'.cancelled <;> rfl

/-- **A run gives what the commands in turn give.** -/
theorem Runs.run_eq (h : Runs launch limits r now cs s starts ending) :
    (runSteps launch limits r now cs).run s = ending := by
  induction h with
  | done r s => rfl
  | noDirectory hdirectory => rw [run_runSteps_cons, run_runStep, hdirectory]
  | noResult hdirectory hawait =>
    rw [run_runSteps_cons, run_runStep, hdirectory]
    dsimp only
    rw [hawait]
  | last hdirectory hawait hstatus =>
    rw [run_runSteps_cons, run_runStep, hdirectory]
    dsimp only
    rw [hawait]
    exact if_neg hstatus
  | next hdirectory hawait hstatus _ ih =>
    rw [run_runSteps_cons, run_runStep, hdirectory]
    dsimp only
    rw [hawait]
    exact (if_pos hstatus).trans ih

/-- **Commands in turn have a run.** -/
theorem exists_runs (launch : Launcher) (limits : Limits) (r : ToolResult) (now : Nat)
    (cs : List ToolCommand) (s : Session ρ) :
    ∃ starts, Runs launch limits r now cs s starts ((runSteps launch limits r now cs).run s) := by
  induction cs generalizing r now s with
  | nil => exact ⟨[], .done r now s⟩
  | cons c cs ih =>
    rw [run_runSteps_cons, run_runStep]
    rcases hdirectory : (Host.ensureDir c.cwd).run s.files with ⟨e | ⟨⟩, t⟩
    · exact ⟨[], .noDirectory hdirectory⟩
    · dsimp only
      rcases hawait : (await launch limits now c).run t with ⟨e | o, t'⟩
      · exact ⟨_, .noResult hdirectory hawait⟩
      · dsimp only
        split
        · rename_i hstatus
          obtain ⟨starts, hrest⟩ := ih (extend launch r o) o.ended
            ({ s with files := t' }.hearing limits.cancellation o.ended)
          exact ⟨_, .next hdirectory hawait hstatus hrest⟩
        · rename_i hstatus
          exact ⟨_, .last hdirectory hawait hstatus⟩

/-- **Carrying out an invocation gives what a run of it gives.** -/
theorem run_carryOut_iff : (carryOut launch i).run s = ending ↔
    ∃ starts, Carries launch i s starts ending := by
  rw [run_carryOut]
  constructor
  · rintro rfl
    rcases hscripts : (writeScripts i.scripts).run s with ⟨e | ⟨⟩, s'⟩
    · exact ⟨[], .unwritten hscripts⟩
    · dsimp only
      cases hlimits : limitsOf launch i.timeout s'.cancelled with
      | error e => exact ⟨[], .noDeadline hscripts hlimits⟩
      | ok limits =>
        obtain ⟨starts, hruns⟩ := exists_runs launch limits noneYet launch.begun i.steps
          (s'.hearing limits.cancellation launch.begun)
        exact ⟨starts, .written hscripts hlimits hruns⟩
  · rintro ⟨starts, hunwritten | ⟨hwritten, hlimits⟩ | ⟨hwritten, hlimits, hruns⟩⟩
    · rw [hunwritten]
    · rw [hwritten]
      dsimp only
      rw [hlimits]
    · rw [hwritten]
      dsimp only
      rw [hlimits]
      exact hruns.run_eq

/-- **Commands are started in turn**, up to some one. -/
theorem Runs.commands (h : Runs launch limits r now cs s starts ending) :
    starts.map (·.command) <+: cs := by
  induction h with
  | done => exact List.nil_prefix
  | noDirectory => exact List.nil_prefix
  | noResult => exact List.cons_prefix_cons.mpr ⟨rfl, List.nil_prefix⟩
  | last => exact List.cons_prefix_cons.mpr ⟨rfl, List.nil_prefix⟩
  | next _ _ _ _ ih => exact List.cons_prefix_cons.mpr ⟨rfl, ih⟩

/-- **A run that ends with exit code zero has started every command.** -/
theorem Runs.commands_of_exited (h : Runs launch limits r now cs s starts ending) {r' : ToolResult}
    (hok : ending.1 = .ok r') (hstatus : r'.status = .exited 0) :
    starts.map (·.command) = cs := by
  induction h with
  | done => rfl
  | noDirectory => cases hok
  | noResult => cases hok
  | last _ _ hfailed =>
    cases hok
    exact absurd hstatus hfailed
  | next _ _ _ _ ih => rw [List.map_cons, ih hok]

/-! ## Scripts -/

/-- The last one of the scripts that are written to the place to which a path leads. -/
def lastAt? (t : FileTree) (p : Path) (scripts : List ScriptFile) : Option ScriptFile :=
  (scripts.filter fun f => t.locate f.path = t.locate p).getLast?

variable {scripts : List ScriptFile} {p : Path} {content : ByteArray} {t : FileTree}

theorem lastAt?_cons (f : ScriptFile) : lastAt? t p (f :: scripts) =
    (lastAt? t p scripts).or (if t.locate f.path = t.locate p then some f else none) := by
  rw [lastAt?, lastAt?, List.filter_cons]
  by_cases hplace : t.locate f.path = t.locate p
  · rw [if_pos (by simpa using hplace), if_pos hplace, List.getLast?_cons]
    cases (scripts.filter fun f => t.locate f.path = t.locate p).getLast? <;> rfl
  · rw [if_neg (by simpa using hplace), if_neg hplace, Option.or_none]

/-- A script is the last one in its place when no later one is written there. -/
theorem lastAt?_of_later (front : List ScriptFile) {rest : List ScriptFile} {f : ScriptFile}
    (h : ∀ g ∈ rest, t.locate g.path ≠ t.locate f.path) :
    lastAt? t f.path (front ++ f :: rest) = some f := by
  have hnone : rest.filter (fun g => t.locate g.path = t.locate f.path) = [] := by
    simpa [List.filter_eq_nil_iff] using h
  simp [lastAt?, hnone]

theorem run_writeScripts_cons (f : ScriptFile) (s : Session ρ) :
    (writeScripts (f :: scripts)).run s =
      match (Host.writeText f.path f.content).run s.files with
      | (.error e, t) => (.error (.scriptWrite f.path e.message), { s with files := t })
      | (.ok _, t) => (writeScripts scripts).run { s with files := t } := by
  show (SessionAction.onFiles _ >>= fun _ => writeScripts scripts).run s = _
  rw [run_bind, run_onFiles, run_adapt]
  rcases (Host.writeText f.path f.content).run s.files with ⟨e | ⟨⟩, t⟩ <;> rfl

/-- A first script that is written, and the scripts behind it. -/
theorem exists_of_run_writeScripts_cons {f : ScriptFile}
    (h : (writeScripts (f :: scripts)).run s = (.ok (), s')) :
    ∃ t, (Host.writeText f.path f.content).run s.files = (.ok (), t) ∧
      (writeScripts scripts).run { s with files := t } = (.ok (), s') := by
  rw [run_writeScripts_cons] at h
  rcases hwrite : (Host.writeText f.path f.content).run s.files with ⟨e | ⟨⟩, t⟩ <;>
    rw [hwrite] at h
  · cases h
  · exact ⟨t, rfl, h⟩

/-- **A file is read as before, or as the last script** that was written in its place. -/
theorem read_of_run_writeScripts (h : (writeScripts scripts).run s = (.ok (), s'))
    (hread : s.files.read p = .ok content) :
    s'.files.read p =
        .ok (((lastAt? s'.files p scripts).map (·.content.toUTF8)).getD content) ∧
      FileTree.SameWays s.files s'.files := by
  induction scripts generalizing s content with
  | nil =>
    cases h
    exact ⟨hread, rfl, fun _ h => h⟩
  | cons f scripts ih =>
    obtain ⟨t, hwrite, hrest⟩ := exists_of_run_writeScripts_cons h
    obtain ⟨hways, hown⟩ := FileTree.sameWays_of_run_writeText hwrite
    have hnext := FileTree.read_of_run_writeText hwrite hread
    obtain ⟨hlast, hways'⟩ := ih hrest hnext
    refine ⟨?_, hways.trans hways'⟩
    -- the paths lead where they led when the first script was written
    rw [← hways'.locate hown, ← hways'.locate hnext] at hlast
    rw [hlast, lastAt?_cons]
    cases lastAt? s'.files p scripts with
    | some g => rfl
    | none =>
      by_cases hplace : s'.files.locate f.path = s'.files.locate p
      · simp [hplace]
      · simp [hplace]

/-- **In the place of a script stands the last one that was written there.** -/
theorem exists_lastAt? (h : (writeScripts scripts).run s = (.ok (), s')) {f : ScriptFile}
    (hf : f ∈ scripts) : ∃ g, lastAt? s'.files f.path scripts = some g ∧
      s'.files.read f.path = .ok g.content.toUTF8 := by
  induction scripts generalizing s with
  | nil => cases hf
  | cons f' scripts ih =>
    obtain ⟨t, hwrite, hrest⟩ := exists_of_run_writeScripts_cons h
    rw [lastAt?_cons]
    rcases List.mem_cons.mp hf with rfl | hf
    · obtain ⟨-, hown⟩ := FileTree.sameWays_of_run_writeText hwrite
      have hlast := (read_of_run_writeScripts hrest hown).1
      rw [if_pos rfl, hlast]
      cases lastAt? s'.files f.path scripts with
      | some g => exact ⟨g, rfl, rfl⟩
      | none => exact ⟨f, rfl, rfl⟩
    · obtain ⟨g, hg, hread⟩ := ih hrest hf
      exact ⟨g, by rw [hg, Option.some_or], hread⟩

/-- **A machine that leaves what is read at a path as it is**, whatever it starts and however that
ends. -/
def Leaves (launch : Launcher) (p : Path) : Prop :=
  ∀ now c t process, launch.spawn now c t = .ok process →
    (∀ e ∈ process.exit, ∀ n, (e.left.files n).read p = t.read p) ∧
      ∀ k n, ((process.killed k).files n).read p = t.read p

/-- What a command leaves that has ended is read as before. -/
theorem Leaves.read_of_ends (h : Leaves launch p) {process : Process}
    (hspawn : launch.spawn now c t = .ok process) {status : Except Fault ToolStatus} {finish : Nat}
    {left : Aftermath} (hends : Ends limits process now status finish left) (n : Nat) :
    (left.files n).read p = t.read p := by
  obtain ⟨hexit, hkilled⟩ := h now c t process hspawn
  cases hends with
  | exited he => exact hexit _ he n
  | timedOut => exact hkilled _ n
  | cancelled => exact hkilled _ n

theorem Leaves.read_of_run_await (h : Leaves launch p) (limits : Limits) (now : Nat)
    (c : ToolCommand) (t : FileTree) :
    ((await launch limits now c).run t).2.read p = t.read p := by
  have hawaits := awaits_run launch limits now c t
  generalize (await launch limits now c).run t = x at hawaits
  obtain ⟨reply, t'⟩ := x
  dsimp only at hawaits
  cases hawaits with
  | noStart => rfl
  | endless => rfl
  | lost hspawn hends => exact h.read_of_ends hspawn hends 0
  | ended hspawn hends => exact h.read_of_ends hspawn hends _

/-- **A file that the machine leaves alone is read at every start** as before the first one. -/
theorem Runs.read (h : Runs launch limits r now cs s starts ending) (hleaves : Leaves launch p)
    (hread : s.files.read p = .ok content) : ∀ x ∈ starts, x.files.read p = .ok content := by
  have hkept : ∀ {c : ToolCommand} {s : Session ρ} {t : FileTree},
      (Host.ensureDir c.cwd).run s.files = (.ok (), t) → s.files.read p = .ok content →
        t.read p = .ok content :=
    fun hdirectory hread => ((FileAction.onlyAdds_ensureDir _).within hdirectory).read hread
  induction h with
  | done => simp
  | noDirectory => simp
  | noResult hdirectory => simpa using hkept hdirectory hread
  | last hdirectory => simpa using hkept hdirectory hread
  | @next r now c _ s t t' o _ _ hdirectory hawait _ _ ih =>
    have hstart := hkept hdirectory hread
    have hnext : t'.read p = .ok content := by
      have hsame := hleaves.read_of_run_await limits now c t
      rw [hawait] at hsame
      exact hsame.trans hstart
    exact List.forall_mem_cons.mpr ⟨hstart, ih hnext⟩

/-- **What a process finds in the place of a script** is the script that was written there last,
when the machine leaves the place alone. -/
theorem Carries.read (h : Carries launch i s starts ending) {f : ScriptFile} (hf : f ∈ i.scripts)
    (hleaves : Leaves launch f.path) :
    ∀ x ∈ starts, ∃ g,
      lastAt? ((writeScripts i.scripts).run s).2.files f.path i.scripts = some g ∧
        x.files.read f.path = .ok g.content.toUTF8 := by
  cases h with
  | unwritten => simp
  | noDeadline => simp
  | @written s' _ _ _ hscripts _ hruns =>
    obtain ⟨g, hg, hread⟩ := exists_lastAt? hscripts hf
    intro x hx
    exact ⟨g, by rw [hscripts]; exact hg, hruns.read hleaves hread x hx⟩

theorem Carries.commands (h : Carries launch i s starts ending) :
    starts.map (·.command) <+: i.steps := by
  cases h with
  | unwritten => exact List.nil_prefix
  | noDeadline => exact List.nil_prefix
  | written _ _ hruns => exact hruns.commands

theorem Carries.commands_of_exited (h : Carries launch i s starts ending) {r' : ToolResult}
    (hok : ending.1 = .ok r') (hstatus : r'.status = .exited 0) :
    starts.map (·.command) = i.steps := by
  cases h with
  | unwritten => cases hok
  | noDeadline => cases hok
  | written _ _ hruns => exact hruns.commands_of_exited hok hstatus

end Launch

end RtlFlow
