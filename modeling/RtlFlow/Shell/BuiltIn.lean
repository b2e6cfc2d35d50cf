import RtlFlow.Shell.Redirection
import RtlFlow.Shell.Starting

/-! # Built-in commands

The commands that change the shell itself: its variables, its working directory, its options and
the order in which it goes on. -/

namespace RtlFlow.Shell

/-- Ends a loop, or goes on with its next round, so many loops out. -/
def loopCount (args : List Field) : Nat := ((args.head?.bind natOf?).getD 1) - 1

/-- The status that an argument asks for. -/
def statusOf (args : List Field) : Action Nat := do
  match args with
  | [] => return (← frame).status
  | f :: _ =>
    match natOf? f with
    | some n => return n % 256
    | none =>
      complainAt ("exit: Illegal number: " ++ Text.ofOctets f)
      throw (.exit 2)

/-- Changes the working directory. -/
def changeDir (args : List Field) : Action Nat := do
  let m ← get
  let target := ((letters args).2.head?).getD ((m.frame.value? "HOME").getD ['/'])
  match m.files.locate (pathOf target) with
  | .ok l =>
    if m.files.entryAt? l = some .directory then
      set { m with files := { m.files with workingDir := l } }
      return 0
    else failed target
  | .error _ => failed target
where
  /-- The complaint about a directory. -/
  failed (target : Field) : Action Nat := do
    complainAt ("cd: can't cd to " ++ Text.ofOctets target)
    return 2

/-- The name and the value of an argument that may be an assignment. -/
def nameAndValue (f : Field) : String × Option Field :=
  match f.dropWhile isNameChar with
  | '=' :: value => (Text.ofOctets (f.takeWhile isNameChar), some value)
  | _ => (Text.ofOctets f, none)

/-- Sets the variables that come with a value, and exports them when that is asked for. -/
def declareAll (exported : Bool) (args : List Field) : Action Nat := do
  (letters args).2.forM fun f => do
    let (name, value) := nameAndValue f
    let old := ((← frame).value? name)
    match value.or old with
    | some v => modifyFrame (·.assign name v exported)
    | none => pure ()
  return 0

/-- Sets options and parameters. -/
def setOptions : List Field → Action Nat
  | [] => return 0
  | f :: rest => do
    if f = ['-', '-'] then
      modifyFrame ({ · with args := rest })
      return 0
    else if f.head? = some '-' || f.head? = some '+' then
      if f.contains 'e' then modifyFrame ({ · with strict := f.head? = some '-' })
      setOptions rest
    else
      modifyFrame ({ · with args := f :: rest })
      return 0

/-- The number of a signal. -/
def signalOf? (f : Field) : Option Nat :=
  (natOf? f).or (signals.lookup (((Text.ofOctets f).dropPrefix "SIG").toString))

/-- Sends a signal to programs. -/
def kill (args : List Field) : Action Nat := do
  let (signal, pids) :=
    match args with
    | ['-', 's'] :: name :: rest => (signalOf? name, rest)
    | ('-' :: name) :: rest => (signalOf? name, rest)
    | rest => (some 15, rest)
  match signal, pids.mapM natOf? with
  | some n, some pids =>
    if pids.all (· ≤ (← get).lastPid) then
      match pids, n with
      | _, 0 | [], _ => return 0
      | pid :: _, n =>
        let m ← get
        if m.jobs.any (·.frame.lastJob = pid) then
          set { m with jobs := m.jobs.filter (·.frame.lastJob ≠ pid) }
          return 0
        else throw (.signal pid n)
    else
      complainAt "kill: No such process"
      return 1
  | _, _ =>
    complainAt "kill: Illegal number"
    return 2

/-- Reads a line of the input into variables; the last one takes the rest of the line. -/
def readLine (args : List Field) : Action Nat := do
  let names := (letters args).2.map Text.ofOctets
  let input := (← frame).input
  let line := input.start.takeWhile (· ≠ '\n')
  modifyFrame ({ · with input := { input with start := input.start.drop (line.length + 1) } })
  assignWords names line
  return if line.length < input.start.length then 0 else 1
where
  /-- Gives the words of a line to variables. -/
  assignWords : List String → List Char → Action Unit
    | [], _ => pure ()
    | [name], rest => modifyFrame (·.assign name (Text.trimWhere Fields.cutsAt rest) false)
    | name :: names, rest => do
      let rest := rest.dropWhile Fields.cutsAt
      let word := rest.takeWhile fun c => !Fields.cutsAt c
      modifyFrame (·.assign name word false)
      assignWords names (rest.drop word.length)

/-- Waits for the commands in the background. -/
def waitForAll (again : Evaluator) : Action Nat := do
  let m ← get
  let done ← runJobs again m.deadline maxJobRounds
  pass (done - m.clock)
  return 0

/-- The built-in commands after whose failed redirection a shell ends. -/
def specialCommands : List String :=
  [":", ".", "eval", "exec", "exit", "export", "readonly", "return", "set", "shift", "unset",
    "break", "continue", "trap", "times"]

/-- Runs the commands of a file in the shell itself. -/
def source (again : Evaluator) (args : List Field) : Action Nat := do
  match args with
  | [] => return 0
  | file :: _ =>
    match openStream (← get).files file with
    | .ok s =>
      match ← outcome (runText again s.start) with
      | .ok status | .error (.returned status) => return status
      | .error e => throw e
    | .error _ =>
      complainAt (".: cannot open " ++ Text.ofOctets file ++ ": No such file")
      throw (.exit 2)

/-- Puts a program in the place of the shell. -/
def execute (again : Evaluator) (args : List Field) : Action Nat := do
  match args with
  | [] => return 0
  | name :: args =>
    match findStart (← get) name args with
    | .ok s => throw (.exit (← runNative again maxStarts s))
    | .error e =>
      let (text, status) := startFailure e
      complainAt ("exec: " ++ Text.ofOctets name ++ ": " ++ text)
      throw (.exit status)

/-- **A built-in command** that is not a utility. -/
def builtIn (again : Evaluator) (name : String) (args : List Field) : Option (Action Nat) :=
  match name with
  | "wait" => some (waitForAll again)
  | ":" | "trap" | "umask" | "times" => some (return 0)
  | "exit" => some do throw (.exit (← statusOf args))
  | "return" => some do throw (.returned (← statusOf args))
  | "break" => some (throw (.broken (loopCount args)))
  | "continue" => some (throw (.continued (loopCount args)))
  | "cd" => some (changeDir args)
  | "export" => some (declareAll true args)
  | "readonly" | "local" => some (declareAll false args)
  | "set" => some (setOptions args)
  | "kill" => some (kill args)
  | "read" => some (readLine args)
  | "eval" => some (runText again (spaced args))
  | "." => some (source again args)
  | "exec" => some (execute again args)
  | "unset" => some do
    let names := (letters args).2.map Text.ofOctets
    modifyFrame fun f =>
      { f with bindings := f.bindings.filter fun v => !names.contains v.name }
    return 0
  | "shift" => some do
    let n := (args.head?.bind natOf?).getD 1
    if (← frame).args.length < n then
      complainAt "shift: can't shift that many"
      throw (.exit 2)
    modifyFrame fun f => { f with args := f.args.drop n }
    return 0
  | _ => none

end RtlFlow.Shell
