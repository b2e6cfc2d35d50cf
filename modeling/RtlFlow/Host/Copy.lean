import RtlFlow.Error
import RtlFlow.Host.FileTree

/-! # Writing and copying with parents

Writing a file and copying a file or a directory, where the directories that the target lacks are
created first. A directory is copied from the top down: it is created at the target before its
entries are listed, so a target inside the source is found there and copied too. -/

namespace RtlFlow.Host

/-- Creates a directory and the parents that it lacks. -/
def ensureDir (p : Path) : FileAction FilesystemError Unit :=
  ExceptT.adapt (fun e => .createDir p e.message) (FileTree.makeDirs p)

/-- Creates the directory that a path lies in. -/
def ensureParent (p : Path) : FileAction FilesystemError Unit :=
  match p.parent? with
  | some parent => ensureDir parent
  | none => pure ()

/-- **Writes a text** to a file and creates the directories that it lacks. -/
def writeText (p : Path) (text : String) : FileAction FilesystemError Unit := do
  ensureParent p
  ExceptT.adapt (fun e => .writeFile p e.message) (FileTree.write p text.toUTF8)

/-- **Copies a file** and creates the directories that the target lacks. -/
def copyFile (source target : Path) : FileAction FilesystemError Unit := do
  ensureParent target
  ExceptT.adapt (fun e => .copy source target e.message) (FileTree.copy source target)

/-- Copies what stands at a path, at most `fuel` directories deep, and answers the number of files
copied. -/
def copyTreeWithin : Nat → Path → Path → FileAction FilesystemError Nat
  | 0, source, target => throw (.copy source target Fault.nameTooLong.message)
  | fuel + 1, source, target => do
    if (← get).isDir source then
      ensureDir target
      let t ← get
      let names := match t.locate source with | .ok l => t.namesIn l | .error _ => []
      names.foldlM (fun count name => do
        return count + (← copyTreeWithin fuel (source.child name) (target.child name))) 0
    else
      copyFile source target
      return 1

/-- The wording of a directory that cannot be walked. -/
def walkFailure (p : Path) (e : Fault) : String :=
  "IO error for operation on " ++ p.text ++ ": " ++ e.message

/-- **Copies a directory** with all below it and answers the number of files copied. No path is
longer than the machine allows, so that many directories are as deep as it goes. -/
def copyTree (source target : Path) : FileAction FilesystemError Nat := do
  let t ← get
  match t.locate source with
  | .error e => throw (.copy source target (walkFailure source e))
  | .ok l =>
    if (t.entryAt? l).isNone then throw (.copy source target (walkFailure source .notFound))
    else copyTreeWithin FileTree.maxPath source (target.join ⟨""⟩)

end RtlFlow.Host
