import RtlFlow.Host.Copy
import RtlFlow.Text.Blank
import RtlFlow.Tool.Invocation
import RtlFlow.Tool.Operation

/-! # Archive bundles

The outputs of an operation are kept in a bundle, a new directory in the archive. Its name tells
the project, the operation, the time and whether the operation failed; a name that is taken gets a
number at its end. In the bundle every artifact has a name of its own, and two log files hold what
the tool wrote. -/

namespace RtlFlow.Archive

/-- The project name where none is given. -/
def defaultProject : String := "project"

/-- What the name of the bundle of a failed operation begins with. -/
def errorTag : String := "ERROR"

/-- The names of the log files of a bundle. -/
def logNames : List String := ["stdout.log", "stderr.log"]

/-- Whether a character may stand in the name of a bundle. -/
def isNameChar (c : Char) : Bool := c.isAlphanum || c = '-' || c = '_'

/-- **A project name made fit for a file name**: every other character becomes an underscore. -/
def safeName (project : String) : String :=
  let name := (Text.trim project).map fun c => if isNameChar c then c else '_'
  if name.isEmpty then defaultProject else name

/-- **The name of a bundle.** -/
def bundleName (operation : Operation) (project : String) (succeeded : Bool) (stamp : String) :
    String :=
  let base := safeName project ++ "_" ++ operation.keyword ++ "_" ++ stamp
  if succeeded then base else errorTag ++ "_" ++ base

/-- A name with a number at its end, unless the number is zero. -/
def numbered (base : String) (n : Nat) : String :=
  if n = 0 then base else base ++ "_" ++ toString n

/-- A file name with a number behind its stem, unless the number is zero. -/
def numberedFile (name : String) (n : Nat) : String :=
  if n = 0 then name
  else
    let (stem, extension) := Path.splitName name
    stem ++ "_" ++ toString n ++ (match extension with | some e => "." ++ e | none => "")

/-- **The name under which a file enters a bundle**: the first of its numbered names that is not
taken. As many names as are taken, and one more, are enough to look at. -/
def freeName (taken : List String) (name : String) : String :=
  (((List.range (taken.length + 1)).map (numberedFile name)).find? fun s =>
    !taken.contains s).getD name

/-- **A bundle that was written.** -/
structure Bundle where
  /-- Its name. -/
  name : String
  /-- Its directory. -/
  path : Path
  /-- The copies of the artifacts. -/
  artifacts : List Path
  /-- The artifacts that were not there. -/
  missing : List Path
  deriving DecidableEq, Repr, Inhabited

/-- Creates the first directory among the numbered names of a base, from a number on; at most
`fuel` names are tried. -/
def createFrom (root : Path) (base : String) : Nat → Nat → FileAction ArchiveError (String × Path)
  | 0, n =>
    throw (.write (root.child (numbered base n)) Fault.fileExists.message)
  | fuel + 1, n => do
    let name := numbered base n
    let path := root.child name
    match (FileTree.makeDir path).run (← get) with
    | (.ok (), t) => set t; return (name, path)
    | (.error .fileExists, _) => createFrom root base fuel (n + 1)
    | (.error e, _) => throw (.write path e.message)

/-- **Creates the directory of a bundle** under a name that is free. There are no more taken names
than entries in the tree. -/
def createBundle (root : Path) (base : String) : FileAction ArchiveError (String × Path) := do
  ExceptT.adapt (fun e => .write root e.message) (Host.ensureDir root)
  createFrom root base ((← get).entries.length + 1) 0

/-- Copies an artifact to a place in a bundle; answers whether it is there. -/
def copyArtifact (artifact target : Path) : FileAction ArchiveError Bool := do
  let failed := fun e : FilesystemError => ArchiveError.write target e.message
  let t ← get
  if t.isFile artifact then
    ExceptT.adapt failed (Host.copyFile artifact target)
    return true
  else if t.isDir artifact then
    let _ ← ExceptT.adapt failed (Host.copyTree artifact target)
    return true
  else return false

/-- Copies artifacts into a bundle; `taken` are the names that are taken in it. -/
def copyArtifacts (taken : List String) (bundle : Bundle) :
    List Path → FileAction ArchiveError Bundle
  | [] => pure bundle
  | artifact :: rest =>
    match artifact.fileName? with
    | none => copyArtifacts taken { bundle with missing := bundle.missing ++ [artifact] } rest
    | some name => do
      let name := freeName taken name
      let target := bundle.path.child name
      if ← copyArtifact artifact target then
        copyArtifacts (name :: taken) { bundle with artifacts := bundle.artifacts ++ [target] } rest
      else
        copyArtifacts (name :: taken) { bundle with missing := bundle.missing ++ [artifact] } rest

/-- Writes the log files of a bundle. -/
def writeLogs (bundle : Path) (result : ToolResult) : FileAction ArchiveError Unit :=
  (logNames.zip [result.stdout, result.stderr]).forM fun (name, text) =>
    let target := bundle.child name
    ExceptT.adapt (fun e => .write target e.message) (Host.writeText target text)

/-- **Writes a bundle** into the archive at `root`. Artifacts that are not there are listed. -/
def write (root : Path) (operation : Operation) (project : String) (succeeded : Bool)
    (artifacts : List Path) (result : Option ToolResult) (stamp : String) :
    FileAction ArchiveError Bundle := do
  let (name, path) ← createBundle root (bundleName operation project succeeded stamp)
  let bundle ← copyArtifacts logNames ⟨name, path, [], []⟩ artifacts
  match result with
  | some result => writeLogs path result
  | none => pure ()
  return bundle

end RtlFlow.Archive
