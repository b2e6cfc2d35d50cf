import RtlFlow.Host.FileTree
import RtlFlow.Shell.Stream
import RtlFlow.Text.Octets
import RtlFlow.Text.Search

/-! # Utilities

A utility reads its arguments, its input and the file tree, and answers what it writes and a status.
-/

namespace RtlFlow.Shell

/-- **What a utility answers.** -/
structure Reply where
  /-- What it writes to its output. -/
  output : ByteStream
  /-- What it complains about, a line for each. -/
  complaints : List String
  /-- Its status. -/
  status : Nat
  deriving Repr, Inhabited

namespace Reply

/-- A status alone. -/
def quiet (status : Nat) : Reply := ⟨.empty, [], status⟩

/-- The status of a condition. -/
def ofBool (b : Bool) : Reply := quiet (if b then 0 else 1)

/-- Output and success. -/
def ofStream (s : ByteStream) : Reply := ⟨s, [], 0⟩

/-- Output that ends, and success. -/
def ofList (cs : List Char) : Reply := ofStream (.ofList cs)

/-- Success, or failure with complaints. -/
def ofComplaints (complaints : List String) : Reply :=
  ⟨.empty, complaints, if complaints.isEmpty then 0 else 1⟩

end Reply

/-- **A utility.** -/
abbrev Utility := List Field → ByteStream → StateM FileTree Reply

/-- The wording of a fault without its number. -/
def faultText (e : Fault) : String :=
  match Text.splitFirst? " (os error " e.message with
  | some (before, _) => before
  | none => e.message

/-- The path that a field writes. -/
def pathOf (f : Field) : Path := ⟨Text.ofOctets f⟩

/-- The octets of a file. -/
def fileOctets (content : ByteArray) : List Char := content.toList.map Text.octet

/-- The file of octets. -/
def octetFile (cs : List Char) : ByteArray := (Text.octetBytes cs).toByteArray

/-- The device that is empty and swallows all that is written to it. -/
def nullDevice : String := "/dev/null"

/-- The device whose bytes are all zero. -/
def zeroDevice : String := "/dev/zero"

/-- **The stream that a path leads to**: a file, or a device. -/
def openStream (t : FileTree) (f : Field) : Except Fault ByteStream :=
  let path := pathOf f
  if path.text = nullDevice then .ok .empty
  else if path.text = zeroDevice then .ok (.repeating ['\x00'])
  else (t.read path).map fun content => .ofList (fileOctets content)

/-- The streams that operands name, and a complaint for each that cannot be opened. A dash, or no
operand at all, stands for the input. -/
def operands (complain : String → Fault → String) (files : List Field) (input : ByteStream)
    (t : FileTree) : List (Field × ByteStream) × List String :=
  if files.isEmpty then ([(['-'], input)], [])
  else
    let opened := files.map fun f =>
      if f = ['-'] then (f, .ok input) else (f, openStream t f)
    (opened.filterMap fun (f, r) =>
        match r with
        | .ok s => some (f, s)
        | .error _ => none,
      opened.filterMap fun (f, r) =>
        match r with
        | .ok _ => none
        | .error e => some (complain (Text.ofOctets f) e))

/-- Whether an argument is an option. -/
def isOption (f : Field) : Bool := f.head? = some '-' && f != ['-']

/-- The letters of the options before the operands, and the operands. -/
def letters : List Field → List Char × List Field
  | [] => ([], [])
  | f :: rest =>
    if f = ['-', '-'] then ([], rest)
    else if isOption f then
      let (more, files) := letters rest
      (f.drop 1 ++ more, files)
    else ([], f :: rest)

/-- The number that digits write. -/
def natOf? (f : Field) : Option Nat :=
  if !f.isEmpty && f.all Char.isDigit then (String.ofList f).toNat? else none

/-- The number that digits write, possibly behind a sign. -/
def intOf? : Field → Option Int
  | '-' :: digits => (natOf? digits).map fun n => -(n : Int)
  | '+' :: digits => (natOf? digits).map Int.ofNat
  | digits => (natOf? digits).map Int.ofNat

end RtlFlow.Shell
