import RtlFlow.Host.FileTree

/-! # Finding programs

Where the program with a name stands. A name with several components is a path and is taken as it
is; any other name is looked up in an install directory, when there is one, and then in the search
path of the machine. -/

namespace RtlFlow

/-- The path leads to a file that may be run. -/
def FileTree.isProgram (t : FileTree) (p : Path) : Bool :=
  match t.get? p with
  | some (.file _ executable) => executable
  | _ => false

namespace Host

/-- The directories that a search path lists. -/
def searchDirs (searchPath : String) : List Path :=
  (Text.piecesAt ':' [] searchPath.toList).map fun cs => ⟨String.ofList cs⟩

/-- The first program with a name in a list of directories. -/
def findIn (t : FileTree) (dirs : List Path) (name : String) : Option Path :=
  (dirs.map (·.child name)).find? t.isProgram

/-- **The program with a name**, by an install directory and a search path. An install directory
that does not exist is passed over. -/
def findProgram (t : FileTree) (searchPath : String) (name : String) (installDir : Option Path) :
    Option Path :=
  let path : Path := ⟨name⟩
  if 1 < path.components.length then if t.isFile path then some path else none
  else if name.isEmpty || name.toList.contains '/' then none
  else
    let installed :=
      match installDir with
      | some dir => if t.isDir dir then findIn t (searchDirs dir.text) name else none
      | none => none
    installed.or (findIn t (searchDirs searchPath) name)

end Host

end RtlFlow
