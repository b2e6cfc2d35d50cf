import RtlFlow.Shell.BuiltIn

/-! # Running commands

What the commands of a script do on a machine. `run` takes a command apart with a bound on its
depth; the parts of a command are run by a function that is a parameter everywhere else, so only
`run` is recursive. -/

namespace RtlFlow.Shell

/-- The output of a script as a value. -/
def captureText (again : Evaluator) (script : List Char) : Action Field := do
  let (s, status) ← capturing (runText again script)
  modifyFrame ({ · with status })
  if s.isEndless then throw .expired
  return trimOutput s.start

/-- Runs an action where commands may fail. -/
def asCondition (a : Action Nat) : Action Nat :=
  restoring (fun before now => { now with inCondition := before.inCondition }) do
    modifyFrame ({ · with inCondition := true })
    a

/-- Calls a function with arguments. -/
def callFunction (again : Evaluator) (body : Command) (args : List Field) : Action Nat :=
  restoring (fun before now => { now with args := before.args }) do
    modifyFrame ({ · with args })
    match ← outcome (again body) with
    | .ok status | .error (.returned status) => return status
    | .error e => throw e

/-- Runs what a name stands for: a built-in command, a function or a program. -/
def callCommand (again : Evaluator) (name : Field) (args : List Field) :
    Action Nat := do
  let text := Text.ofOctets name
  if specialCommands.contains text then (builtIn again text args).getD (return 0)
  else
    match (← frame).functions.lookup text with
    | some body => callFunction again body args
    | none =>
      match text, args with
      | "command", name :: args => runProgram again name args
      | _, _ =>
        match builtIn again text args, builtInUtilities.lookup text with
        | some a, _ => a
        | none, some u => callUtility complainAt u args
        | none, none => runProgram again name args

/-- Sets variables, for the programs that are started too when that is asked for. -/
def assignAll (again : Evaluator) (exported : Bool) (assigns : List (String × Word)) :
    Action Unit :=
  assigns.forM fun (name, w) => do
    let value ← expandWhole (captureText again) w
    modifyFrame (·.assign name value exported)

/-- **A simple command.** -/
def runSimple (again : Evaluator) (assigns : List (String × Word))
    (words : List Word) (redirects : List Redirect) : Action Nat := do
  let capture := captureText again
  match ← expandWords capture words with
  | [] =>
    let status ← redirected capture redirects (return 0)
    assignAll again false assigns
    let captures := assigns.any fun (_, w) => w.any fun p => match p with
      | .output .. => true
      | _ => false
    if status = 0 && captures then return (← frame).status else return status
  | name :: args =>
    let text := Text.ofOctets name
    if text = "exec" then
      match ← redirectAll capture redirects with
      | some text =>
        complainAt text
        throw (.exit 2)
      | none =>
        assignAll again true assigns
        callCommand again name args
    else if specialCommands.contains text then
      let status ← redirected capture redirects do
        assignAll again false assigns
        return 0
      if status ≠ 0 then throw (.exit status)
      redirected capture redirects (callCommand again name args)
    else
      redirected capture redirects
        (restoring (fun before now =>
            if assigns.isEmpty then now else { now with bindings := before.bindings }) do
          assignAll again true assigns
          callCommand again name args)

/-- Both sides of a bar: the output of the first is the input of the second. -/
def runPipe (again : Evaluator) (a b : Command) : Action Nat := do
  let (s, _) ← capturing (again a)
  inCopy do
    modifyFrame ({ · with input := s })
    again b

/-- **A command that is not waited for.** It runs when somebody waits for it, or when the program is
done. -/
def runBackground (a : Command) : Action Nat := do
  modify fun m =>
    { m with
      lastPid := m.lastPid + 1,
      jobs := m.jobs ++
        [⟨{ m.frame with input := .empty, lastJob := m.lastPid + 1 }, m.files.workingDir, a,
          m.clock⟩],
      frame := { m.frame with lastJob := m.lastPid + 1 } }
  return 0

/-- How often a loop goes round at most. -/
def maxRounds : Nat := 1000000

/-- The rounds of a loop while a condition holds, or until it does. -/
def runLoop (again : Evaluator) (holds : Bool) (condition body : Command) : Nat → Action Nat
  | 0 => throw .expired
  | fuel + 1 => do
    let status ← asCondition (again condition)
    if (status = 0) = holds then
      match ← outcome (again body) with
      | .ok _ | .error (.continued 0) => runLoop again holds condition body fuel
      | .error (.broken 0) => return 0
      | .error (.broken (n + 1)) => throw (.broken n)
      | .error (.continued (n + 1)) => throw (.continued n)
      | .error e => throw e
    else return 0

/-- The rounds of a loop over fields. -/
def runEach (again : Evaluator) (name : String) (body : Command) (status : Nat) :
    List Field → Action Nat
  | [] => return status
  | f :: rest => do
    modifyFrame (·.assign name f false)
    match ← outcome (again body) with
    | .ok status => runEach again name body status rest
    | .error (.continued 0) => runEach again name body 0 rest
    | .error (.broken 0) => return 0
    | .error (.broken (n + 1)) => throw (.broken n)
    | .error (.continued (n + 1)) => throw (.continued n)
    | .error e => throw e

/-- Ends a strict shell when a command failed that is no condition. -/
def checked (status : Nat) : Action Nat := do
  let f ← frame
  if status ≠ 0 && f.strict && !f.inCondition then throw (.exit status)
  return status

/-- **What a command does**, by what its parts do. -/
def runStep (again : Evaluator) (c : Command) : Action Nat := do
  match c with
  | .nothing => return (← frame).status
  | .simple line assigns words redirects =>
    modifyFrame ({ · with line })
    checked (← runSimple again assigns words redirects)
  | .seq a b =>
    let status ← again a
    if b matches .nothing then return status else again b
  | .both a b =>
    let status ← asCondition (again a)
    if status = 0 then again b else return status
  | .either a b =>
    let status ← asCondition (again a)
    if status = 0 then return status else again b
  | .pipe a b => checked (← runPipe again a b)
  | .negate a => return if (← asCondition (again a)) = 0 then 1 else 0
  | .background a => runBackground a
  | .subshell a => checked (← inCopy (again a))
  | .redirected a redirects =>
    redirected (captureText again) redirects (again a)
  | .branch condition yes no =>
    if (← asCondition (again condition)) = 0 then again yes
    else
      modifyFrame ({ · with status := 0 })
      again no
  | .select subject patterns body other =>
    let capture := captureText again
    let value ← expandWhole capture subject
    let patterns ← patterns.mapM (expandWhole capture)
    if patterns.any (globMatches · value) then again body
    else
      modifyFrame ({ · with status := 0 })
      again other
  | .loop holds condition body => runLoop again holds condition body maxRounds
  | .forEach name words body =>
    let fields ← expandWords (captureText again) words
    runEach again name body 0 fields
  | .define name body =>
    modifyFrame fun f => { f with functions := (name, body) :: f.functions }
    return 0

/-- **Runs a command**, at most so many commands inside each other. -/
def run : Nat → Evaluator
  | 0, _ => throw .expired
  | depth + 1, c => do
    let status ← runStep (run depth) c
    modifyFrame ({ · with status })
    return status

end RtlFlow.Shell
