import RtlFlow.Duration
import RtlFlow.Shell.Expansion
import RtlFlow.Shell.Image
import RtlFlow.Shell.Malformed
import RtlFlow.Shell.Utility.Files
import RtlFlow.Shell.Utility.Filters

/-! # Starting programs

What a program does on a machine: a utility answers at once, `sleep` lets time pass, and a shell
runs the commands of a script. How a command is run is a parameter here. -/

namespace RtlFlow.Shell

/-- How a part of a command is run. -/
abbrev Evaluator := Command → Action Nat

/-- A utility as an action: what it writes goes to the output, and its complaints where complaints
go. -/
def callUtility (report : String → Action Unit) (u : Utility) (args : List Field) :
    Action Nat := do
  let reply ← onFiles (u args (← frame).input)
  reply.complaints.forM report
  writeOut reply.output
  return reply.status

/-- The utilities that every shell has built in. -/
def builtInUtilities : List (String × Utility) :=
  [("echo", echoEscaped), ("printf", printf), ("test", test), ("[", bracketTest), ("pwd", pwd),
    ("true", fun _ _ => return .quiet 0), ("false", fun _ _ => return .quiet 1)]

/-- **The utilities that are programs.** -/
def utilities : List (String × Utility) :=
  [("cat", cat), ("head", head), ("tail", tail), ("tr", tr), ("wc", wc), ("tee", tee),
    ("grep", grep), ("sort", sort), ("seq", seq), ("yes", yes), ("mkdir", mkdir), ("rmdir", rmdir),
    ("touch", touch), ("rm", rm), ("cp", cp), ("mv", mv), ("chmod", chmod), ("ls", ls),
    ("basename", basename), ("dirname", dirname), ("echo", echoPlain)] ++
    builtInUtilities.drop 1

/-- The nanoseconds of a time in seconds, with a letter for another unit behind it. -/
def sleepNanos? (f : Field) : Option Nat :=
  let whole := f.takeWhile Char.isDigit
  let (fraction, unit) :=
    match f.drop whole.length with
    | '.' :: rest => (rest.takeWhile Char.isDigit, rest.dropWhile Char.isDigit)
    | rest => ([], rest)
  let factor? : Option Nat :=
    match unit with
    | [] | ['s'] => some 1
    | ['m'] => some 60
    | ['h'] => some 3600
    | ['d'] => some 86400
    | _ => none
  if whole.isEmpty && fraction.isEmpty then none
  else factor?.map fun factor =>
    let nanos := (fraction ++ List.replicate 9 '0').take 9
    factor * (((natOf? whole).getD 0) * Duration.nanosPerSecond + (natOf? nanos).getD 0)

/-- **Waits.** -/
def sleep (args : List Field) : Action Nat := do
  match args.mapM sleepNanos? with
  | some [] =>
    complain "sleep: missing operand"
    complain "Try 'sleep --help' for more information."
    return 1
  | some times =>
    pass (times.foldl (· + ·) 0)
    return 0
  | none =>
    let culprit := (args.find? fun f => (sleepNanos? f).isNone).getD []
    complain ("sleep: invalid time interval '" ++ Text.ofOctets culprit ++ "'")
    complain "Try 'sleep --help' for more information."
    return 1

/-- The names and numbers of signals. -/
def signals : List (String × Nat) :=
  [("HUP", 1), ("INT", 2), ("QUIT", 3), ("ABRT", 6), ("KILL", 9), ("USR1", 10), ("SEGV", 11),
    ("USR2", 12), ("PIPE", 13), ("ALRM", 14), ("TERM", 15)]

/-- What a shell says about a program that a signal ended. -/
def signalText (n : Nat) : Option String :=
  match n with
  | 1 => some "Hangup"
  | 3 => some "Quit"
  | 6 => some "Aborted"
  | 9 => some "Killed"
  | 10 => some "User defined signal 1"
  | 11 => some "Segmentation fault"
  | 12 => some "User defined signal 2"
  | 14 => some "Alarm clock"
  | 15 => some "Terminated"
  | _ => none

/-- **Runs an action as a program of its own** and waits for it. -/
def inChild (a : Action Nat) : Action Nat := do
  let pid := (← get).lastPid + 1
  modify ({ · with lastPid := pid })
  let r ← outcome (inCopy do
    modifyFrame ({ · with pid })
    a)
  match r with
  | .ok status => return status
  | .error (.signal p n) =>
    if p = pid then
      (signalText n).forM complain
      return 128 + n
    else throw (.signal p n)
  | .error e => throw e

/-- **How a shell was called.** -/
structure ShellCall where
  /-- A script in the arguments. -/
  script : Option (List Char)
  /-- Whether a command that fails ends the shell. -/
  strict : Bool
  /-- The arguments behind the options. -/
  args : List Field

/-- Reads the arguments of a shell; none when the script that an option promises is missing. -/
def readCall (strict : Bool) (wantsScript : Bool) : List Field → Option ShellCall
  | [] => finish []
  | f :: rest =>
    if f = ['-', '-'] || f = ['-'] then finish rest
    else if f.head? = some '-' || f.head? = some '+' then
      let strict := if f.contains 'e' then f.head? = some '-' else strict
      readCall strict (wantsScript || f.contains 'c') rest
    else finish (f :: rest)
where
  /-- The call when all options are read. -/
  finish (fs : List Field) : Option ShellCall :=
    match wantsScript, fs with
    | true, script :: rest => some ⟨some script, strict, rest⟩
    | true, [] => none
    | false, fs => some ⟨none, strict, fs⟩

/-- The longest beginning of a script, in whole lines, that can be read. -/
def readableLines (script : List Char) : List (List Char) :=
  let lines := Text.linesOf script
  let text (n : Nat) : List Char := ((lines.take n).map (· ++ ['\n'])).flatten
  match ((List.range lines.length).reverse.find? fun n => (parse (text n)).isSome) with
  | some n => lines.take n
  | none => []

/-- **Runs the text of a script.** Of a malformed one, the lines before the error are run. -/
def runText (again : Evaluator) (script : List Char) : Action Nat := do
  match parse script with
  | some c => again c
  | none =>
    let lines := readableLines script
    let text := (lines.map (· ++ ['\n'])).flatten
    let _ ← again ((parse text).getD .nothing)
    let (complaint, line) := syntaxComplaint (script.drop text.length)
    modifyFrame ({ · with line := lines.length + line })
    complainAt complaint
    throw (.exit 2)

/-- A complaint before any line of a script. -/
def refuse (text : String) : Action Nat := do
  modifyFrame ({ · with line := 0 })
  complainAt text
  return 2

/-- **A shell** as it was called. -/
def runShell (again : Evaluator) (call : ShellCall) : Action Nat := do
  modifyFrame ({ · with strict := call.strict, line := 1 })
  match call.script, call.args with
  | some script, [] =>
    modifyFrame ({ · with args := [] })
    runText again script
  | some script, name :: rest =>
    modifyFrame ({ · with name, args := rest })
    runText again script
  | none, [] =>
    let input := (← frame).input
    modifyFrame ({ · with args := [], input := .empty })
    runText again input.start
  | none, file :: rest =>
    match openStream (← get).files file with
    | .ok s =>
      modifyFrame ({ · with name := file, args := rest })
      runText again s.start
    | .error e =>
      let reason := match e with | .notFound | .notDirectory => "No such file" | e => faultText e
      refuse ("cannot open " ++ Text.ofOctets file ++ ": " ++ reason)

/-- The names of shells. -/
def shells : List String := ["sh", "dash", "bash"]

/-- The assignments at the beginning of a list of arguments, and the rest. -/
def leadingAssignments : List Field → List (String × Field) × List Field
  | [] => ([], [])
  | f :: rest =>
    match f.dropWhile isNameChar with
    | '=' :: value =>
      let (more, rest) := leadingAssignments rest
      ((Text.ofOctets (f.takeWhile isNameChar), value) :: more, rest)
    | _ => ([], f :: rest)

/-- Writes the environment, or the values of some of its variables. -/
def printEnvironment (names : List Field) : Action Nat := do
  let f ← frame
  if names.isEmpty then
    let lines := f.environment.flatMap fun v => Text.octets v.name ++ '=' :: v.value ++ ['\n']
    writeOut (.ofList lines)
    return 0
  else
    let values := names.filterMap fun n =>
      (f.environment.find? (·.name = Text.ofOctets n)).map (·.value)
    writeOut (.ofList (values.flatMap (· ++ ['\n'])))
    return if values.length = names.length then 0 else 1

/-- The frame of a program that takes the place of another. -/
def Frame.replaced (f : Frame) (s : Start) : Frame :=
  { f with
    name := s.name, args := s.args, bindings := f.environment, functions := [], status := 0,
    strict := false, inCondition := false }

/-- The search path of a program. -/
def Frame.searchPath (f : Frame) : String :=
  ((f.value? "PATH").map Text.ofOctets).getD defaultSearchPath

/-- **Runs a native program** in the place of the one that runs. The bound is on the number of
programs that only start another one. -/
def runNative (again : Evaluator) : Nat → Start → Action Nat
  | 0, _ => return 126
  | fuel + 1, s => do
    modifyFrame (·.replaced s)
    if shells.contains s.native then
      match readCall false false s.args with
      | some call => runShell again call
      | none => refuse "-c requires an argument"
    else if s.native = "sleep" then sleep s.args
    else if s.native = "printenv" then printEnvironment s.args
    else if s.native = "env" then
      let (assigns, rest) := leadingAssignments s.args
      assigns.forM fun (name, value) => modifyFrame (·.assign name value true)
      match rest with
      | [] => printEnvironment []
      | name :: args =>
        let m ← get
        match (lookUp m.files m.frame.searchPath name).bind (startOf m.files · name args) with
        | .ok s => runNative again fuel s
        | .error e =>
          complain ("env: '" ++ Text.ofOctets name ++ "': " ++ faultText e)
          return if e = .permission then 126 else 127
    else
      match utilities.lookup s.native with
      | some u => callUtility complain u s.args
      | none => return 127

/-- How many programs may only start another one. -/
def maxStarts : Nat := 64

/-- The program with a name and what it is started with. A file without a known format is read by
a shell. -/
def findStart (m : Machine) (name : Field) (args : List Field) : Except Fault Start := do
  let path ← lookUp m.files m.frame.searchPath name
  match startOf m.files path name args with
  | .error .execFormat => .ok ⟨"sh", name, Text.octets path.text :: args⟩
  | r => r

/-- What a shell says when a program cannot be started, and its status then. -/
def startFailure (e : Fault) : String × Nat :=
  match e with
  | .notFound | .notDirectory => ("not found", 127)
  | e => (faultText e, 126)

/-- **Starts a program by its name** and waits for it. -/
def runProgram (again : Evaluator) (name : Field) (args : List Field) :
    Action Nat := do
  match findStart (← get) name args with
  | .ok s => inChild (runNative again maxStarts s)
  | .error e =>
    let (text, status) := startFailure e
    complainAt (Text.ofOctets name ++ ": " ++ text)
    return status

end RtlFlow.Shell
