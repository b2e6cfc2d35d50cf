import RtlFlow.Path

/-! # The file tree

The files of a machine as a value: a finite map from locations to entries. A location is the list
of names on the way down from the root, and an entry is a file or a directory. A path is followed
name by name as a POSIX system does it: every name on the way must be a directory, `..` leads to
the directory above, and a separator at the end asks for a directory.

An operation that fails may have changed the tree before it failed, for instance by creating some
of the parents of a directory, so the operations are state transitions whose state survives an
error. -/

namespace RtlFlow

/-- **Why the machine refuses an operation on its files or programs.** -/
inductive Fault where
  /-- A name on the way does not exist. -/
  | notFound
  /-- A file that is to be run has no known format. -/
  | execFormat
  /-- The file may not be run. -/
  | permission
  /-- The entry exists already. -/
  | fileExists
  /-- A file stands where a directory is needed. -/
  | notDirectory
  /-- A directory stands where a file is needed. -/
  | isDirectory
  /-- A name or the whole path is too long. -/
  | nameTooLong
  /-- The path holds a NUL character. -/
  | nulInPath
  /-- The arguments of a program hold a NUL character. -/
  | nulInArgument
  /-- What is to be copied is no regular file. -/
  | notRegular
  /-- The content of a file is not UTF-8. -/
  | notText
  deriving DecidableEq, Repr

/-- The wording of a fault: the machine's own text and number, where it has one. -/
def Fault.message : Fault → String
  | .notFound => "No such file or directory (os error 2)"
  | .execFormat => "Exec format error (os error 8)"
  | .permission => "Permission denied (os error 13)"
  | .fileExists => "File exists (os error 17)"
  | .notDirectory => "Not a directory (os error 20)"
  | .isDirectory => "Is a directory (os error 21)"
  | .nameTooLong => "File name too long (os error 36)"
  | .nulInPath => "file name contained an unexpected NUL byte"
  | .nulInArgument => "nul byte found in provided data"
  | .notRegular => "the source path is neither a regular file nor a symlink to a regular file"
  | .notText => "stream did not contain valid UTF-8"

/-- A place in the tree: the names on the way down from the root. -/
abbrev Location := List String

/-- **What stands at a location.** -/
inductive Entry where
  /-- A file with its bytes; it may be executable. -/
  | file (content : ByteArray) (executable : Bool)
  /-- A directory. -/
  | directory
  deriving Inhabited

/-- Entries are compared by the bytes of their content. -/
instance : DecidableEq Entry
  | .directory, .directory => isTrue rfl
  | .directory, .file .. => isFalse nofun
  | .file .., .directory => isFalse nofun
  | .file c x, .file d y =>
    if h : c.data = d.data ∧ x = y then isTrue (by
      cases c
      cases d
      simp_all)
    else isFalse fun e => by
      cases e
      simp at h

/-- **A file tree.** The root is a directory that needs no entry. -/
structure FileTree where
  /-- The entries, at most one for a location. -/
  entries : List (Location × Entry)
  /-- The directory from which relative paths are followed. -/
  workingDir : Location
  deriving Inhabited

namespace FileTree

/-- The entry at a location. -/
def entryAt? (t : FileTree) (l : Location) : Option Entry :=
  if l.isEmpty then some .directory else (t.entries.find? fun (k, _) => k == l).map (·.2)

/-- The entries with one put at a location; an entry that stands there is replaced. -/
def putIn (l : Location) (e : Entry) : List (Location × Entry) → List (Location × Entry)
  | [] => [(l, e)]
  | (k, old) :: rest => if k == l then (l, e) :: rest else (k, old) :: putIn l e rest

/-- The tree with an entry put at a location. -/
def put (t : FileTree) (l : Location) (e : Entry) : FileTree :=
  { t with entries := putIn l e t.entries }

/-- The tree without a location and all below it. -/
def cut (t : FileTree) (l : Location) : FileTree :=
  { t with entries := t.entries.filter fun (k, _) => !l.isPrefixOf k }

/-- The names of the entries of a directory, in ascending order. -/
def namesIn (t : FileTree) (l : Location) : List String :=
  (t.entries.filterMap fun (k, _) =>
    match k.getLast? with
    | some name => if k.dropLast == l then some name else none
    | none => none).mergeSort (fun a b => a ≤ b)

/-- The greatest number of bytes in a name. -/
def maxName : Nat := 255

/-- The number of bytes from which on a path is too long. -/
def maxPath : Nat := 4096

/-- Follows names from a location: every name is looked up in a directory that exists. The last
one need not exist. -/
def follow (t : FileTree) (here : Location) : List String → Except Fault Location
  | [] => .ok here
  | s :: rest =>
    match t.entryAt? here with
    | none => .error .notFound
    | some (.file ..) => .error .notDirectory
    | some .directory =>
      if s = "." then t.follow here rest
      else if s = ".." then t.follow here.dropLast rest
      else if maxName < s.utf8ByteSize then .error .nameTooLong
      else t.follow (here ++ [s]) rest

/-- Whether a path ends in a separator. -/
def endsInSeparator (p : Path) : Bool := p.text.toList.getLast? = some '/'

/-- Where a path starts. -/
def startOf (t : FileTree) (p : Path) : Location := if p.isAbsolute then [] else t.workingDir

/-- **The location that a path leads to**, in a directory that exists. -/
def locate (t : FileTree) (p : Path) : Except Fault Location := do
  if p.text.toList.any (· = '\x00') then .error .nulInPath
  if p.text.isEmpty then .error .notFound
  if maxPath ≤ p.text.utf8ByteSize then .error .nameTooLong
  let l ← t.follow (t.startOf p) p.segments
  match t.entryAt? l with
  | some (.file ..) => if endsInSeparator p then .error .notDirectory else .ok l
  | _ => .ok l

/-- **The entry that a path leads to.** -/
def get? (t : FileTree) (p : Path) : Option Entry :=
  match t.locate p with
  | .ok l => t.entryAt? l
  | .error _ => none

/-- The path leads to a file. -/
def isFile (t : FileTree) (p : Path) : Bool :=
  match t.get? p with
  | some (.file ..) => true
  | _ => false

/-- The path leads to a directory. -/
def isDir (t : FileTree) (p : Path) : Bool :=
  match t.get? p with
  | some .directory => true
  | _ => false

/-- The path leads to something. -/
def isPresent (t : FileTree) (p : Path) : Bool := (t.get? p).isSome

/-- **The content of the file** that a path leads to. -/
def read (t : FileTree) (p : Path) : Except Fault ByteArray := do
  let l ← t.locate p
  match t.entryAt? l with
  | some (.file content _) => .ok content
  | some .directory => .error .isDirectory
  | none => .error .notFound

/-- **The content of a file as text**, refused when it is not UTF-8. -/
def readText (t : FileTree) (p : Path) : Except Fault String := do
  match String.fromUTF8? (← t.read p) with
  | some s => .ok s
  | none => .error .notText

end FileTree

/-- **An operation on the file tree** that may fail; the tree that it leaves counts in both
cases. -/
abbrev FileAction (ε α : Type) := ExceptT ε (StateM FileTree) α

namespace FileTree

/-- Creates the directories along a list of names, as far as they are missing. -/
def makeDirsFrom (here : List String) (start : Location) : List String → FileAction Fault Unit
  | [] => pure ()
  | s :: rest => do
    let l ← liftExcept ((← get).follow start (here ++ [s]))
    match (← get).entryAt? l with
    | some .directory => pure ()
    | some (.file ..) => throw (if rest.isEmpty then .fileExists else .notDirectory)
    | none => set ((← get).put l .directory)
    makeDirsFrom (here ++ [s]) start rest
where
  /-- An answer that does not depend on the tree as an operation. -/
  liftExcept {α : Type} (r : Except Fault α) : FileAction Fault α := ExceptT.mk (pure r)

/-- **Creates a directory and the parents that it lacks.** The empty path asks for nothing. -/
def makeDirs (p : Path) : FileAction Fault Unit := do
  if p.text.isEmpty then return
  if p.text.toList.any (· = '\x00') then throw .nulInPath
  if maxPath ≤ p.text.utf8ByteSize then throw .nameTooLong
  makeDirsFrom [] ((← get).startOf p) p.segments

/-- **Creates one directory** in a directory that exists; the name must be free. -/
def makeDir (p : Path) : FileAction Fault Unit := do
  let t ← get
  match t.locate p with
  | .error e => throw e
  | .ok l => if (t.entryAt? l).isSome then throw .fileExists else set (t.put l .directory)

/-- Where a file may be written: a path that leads to a file or to a free place in a directory. -/
def fileSpot (t : FileTree) (p : Path) : Except Fault Location := do
  let l ← t.locate p
  match t.entryAt? l with
  | some (.file ..) => .ok l
  | some .directory => .error .isDirectory
  | none => if endsInSeparator p then .error .isDirectory else .ok l

/-- **Writes a file** in a directory that exists; a file that is replaced keeps its mode. -/
def write (p : Path) (content : ByteArray) : FileAction Fault Unit := do
  let t ← get
  match t.fileSpot p with
  | .error e => throw e
  | .ok l =>
    let executable := match t.entryAt? l with | some (.file _ x) => x | _ => false
    set (t.put l (.file content executable))

/-- **Copies a file** with its mode. The target is emptied before the source is read, so a file
copied onto itself ends up empty. -/
def copy (source target : Path) : FileAction Fault Unit := do
  let t ← get
  match t.locate source with
  | .error e => throw e
  | .ok l =>
    match t.entryAt? l with
    | none => throw .notFound
    | some .directory => throw .notRegular
    | some (.file content executable) =>
      match t.fileSpot target with
      | .error e => throw e
      | .ok m => set (t.put m (.file (if m == l then ByteArray.empty else content) executable))

/-- **Removes a file.** -/
def removeFile (p : Path) : FileAction Fault Unit := do
  let t ← get
  match t.locate p with
  | .error e => throw e
  | .ok l =>
    match t.entryAt? l with
    | none => throw .notFound
    | some .directory => throw .isDirectory
    | some (.file ..) => set (t.cut l)

/-- Removes a file, or a directory with all below it; nothing happens when there is neither. -/
def removeAll (t : FileTree) (p : Path) : FileTree :=
  match t.locate p with
  | .error _ => t
  | .ok l => if l.isEmpty then t else t.cut l

/-- **Moves a file** to another name, replacing a file that stands there. -/
def rename (source target : Path) : FileAction Fault Unit := do
  let t ← get
  match t.locate source, t.fileSpot target with
  | .error e, _ => throw e
  | _, .error e => throw e
  | .ok l, .ok m =>
    match t.entryAt? l with
    | none => throw .notFound
    | some .directory => throw .isDirectory
    | some e => set ((t.cut l).put m e)

end FileTree

end RtlFlow
