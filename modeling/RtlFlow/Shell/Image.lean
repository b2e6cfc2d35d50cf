import RtlFlow.Host.Programs
import RtlFlow.Text.Blank
import RtlFlow.Shell.Utility.Basic

/-! # Programs on the machine

A program is a file that may be run: a native program of the machine, a script that names its
interpreter in its first line, or something else that only a shell makes sense of. -/

namespace RtlFlow.Shell

/-- **What the content of a program is.** -/
inductive Image where
  /-- A native program of the machine. -/
  | native (name : String)
  /-- A script with its interpreter and an argument for it. -/
  | script (interpreter : Field) (arg : Option Field)
  /-- Anything else. -/
  | plain
  deriving DecidableEq, Repr, Inhabited

/-- The bytes with which native programs begin. -/
def nativeMark : List Char := ['\x7f', 'E', 'L', 'F']

/-- The content of a native program. -/
def nativeContent (name : String) : ByteArray := octetFile (nativeMark ++ Text.octets name)

/-- A field without blanks around it. -/
def trimGaps (cs : Field) : Field := Text.trimWhere (fun c => c = ' ' || c = '\t') cs

/-- **What some content is.** -/
def Image.ofContent (content : ByteArray) : Image :=
  match Text.dropLead? nativeMark (fileOctets (content.extract 0 256)) with
  | some name => .native (Text.ofOctets name)
  | none =>
    match fileOctets (content.extract 0 256) with
    | '#' :: '!' :: rest =>
      let line := trimGaps (rest.takeWhile (· ≠ '\n'))
      let interpreter := line.takeWhile fun c => c ≠ ' ' && c ≠ '\t'
      let arg := trimGaps (line.drop interpreter.length)
      if interpreter.isEmpty then .plain
      else .script interpreter (if arg.isEmpty then none else some arg)
    | _ => .plain

/-- **A native program with what it is started with.** -/
structure Start where
  /-- The native program. -/
  native : String
  /-- The name under which it is started. -/
  name : Field
  /-- Its arguments. -/
  args : List Field
  deriving Repr, Inhabited

/-- How many interpreters may stand between a script and a native program. -/
def maxInterpreters : Nat := 5

/-- What runs when the program at a path is started, at most `fuel` interpreters deep. -/
def startWithin (t : FileTree) : Nat → Path → Field → List Field → Except Fault Start
  | 0, _, _, _ => .error .execFormat
  | fuel + 1, path, name, args => do
    let l ← t.locate path
    match t.entryAt? l with
    | none => .error .notFound
    | some .directory | some (.file _ false) => .error .permission
    | some (.file content true) =>
      match Image.ofContent content with
      | .native native => .ok ⟨native, name, args⟩
      | .script interpreter arg =>
        startWithin t fuel (pathOf interpreter) interpreter
          (arg.toList ++ Text.octets path.text :: args)
      | .plain => .error .execFormat

/-- **What runs when the program at a path is started**, or why nothing does. -/
def startOf (t : FileTree) (path : Path) (name : Field) (args : List Field) :
    Except Fault Start :=
  startWithin t maxInterpreters path name args

/-- The path of the program with a name: a name with a separator is a path, and any other name is
looked up in a search path. A file of that name that may not be run is passed over, but is the
reason when nothing else is found. -/
def lookUp (t : FileTree) (searchPath : String) (name : Field) : Except Fault Path :=
  let path := pathOf name
  if name.contains '/' then .ok path
  else if name.isEmpty then .error .notFound
  else
    let spots := (Host.searchDirs searchPath).map fun dir =>
      if dir.text.isEmpty then path else dir.child path.text
    match spots.find? t.isProgram with
    | some p => .ok p
    | none => .error (if spots.any t.isPresent then .permission else .notFound)

/-- The search path when the environment has none. -/
def defaultSearchPath : String := "/usr/local/sbin:/usr/local/bin:/usr/sbin:/usr/bin:/sbin:/bin"

end RtlFlow.Shell
