import RtlFlow.Catalog.Source
import RtlFlow.Error
import RtlFlow.Host.FileTree

/-! # The source catalog

The declared files of a project in the order of their registration. A library is the list of the
files registered in it, and libraries stand in the order in which their first files came, so the
files of the catalog and of its libraries are two views of one list. Paths are taken from the root
of the catalog and normalised lexically, and no two files have one path. -/

namespace RtlFlow

open RtlFlow.Text.Unicode

namespace Path

/-- One component of lexical normalisation on the components kept so far, last one first: `.` is
dropped, and `..` takes away the component before it, unless there is none or only the root. -/
def normalizeStep (kept : List Component) : Component → List Component
  | .here => kept
  | .up =>
    match kept with
    | [] => [.up]
    | [.root] => [.up, .root]
    | _ :: rest => rest
  | c => c :: kept

/-- The text of one component within a path. -/
def Component.text : Component → String
  | .root => ""
  | .here => "."
  | .up => ".."
  | .name s => s

/-- The path of a list of components. -/
def ofComponents (cs : List Component) : Path :=
  match cs with
  | .root :: rest => ⟨"/" ++ "/".intercalate (rest.map Component.text)⟩
  | cs => ⟨"/".intercalate (cs.map Component.text)⟩

/-- **The path normalised lexically**, without a look at the file tree. -/
def normalize (p : Path) : Path := ofComponents ((p.components.foldl normalizeStep []).reverse)

end Path

/-- **A catalog of sources.** -/
structure Catalog where
  /-- The directory from which relative paths are taken. -/
  root : Path
  /-- The files in the order of their registration. -/
  files : List SourceFile
  /-- The constraints files in the order in which they were added. -/
  constraints : List ConstraintsFile
  /-- The generics of the project. -/
  generics : Generics
  deriving Repr, Inhabited

namespace Catalog

/-- The library of the files that are registered without one. -/
def defaultLibrary : String := "work"

/-- The catalog without files. -/
def empty (root : Path) : Catalog := ⟨root, [], [], .empty⟩

/-- The path under which the catalog keeps a file: taken from the root and normalised. -/
def resolvePath (c : Catalog) (p : Path) : Path :=
  (if p.isAbsolute then p else c.root.join p).normalize

/-- **The file with a path.** -/
def file? (c : Catalog) (p : Path) : Option SourceFile :=
  let p := c.resolvePath p
  c.files.find? fun f => f.path == p

/-- **Registers a file in a library.** The library name is trimmed and put into lower case, and
may not be blank. To register a file again as it is changes nothing; any difference is an error. -/
def register (c : Catalog) (p : Path) (library : String) (a : SourceAttributes) :
    Except CatalogError Catalog :=
  let path := c.resolvePath p
  let library := lowercase (Text.trim library)
  if library.isEmpty then .error (.emptyLibrary path)
  else
    let file : SourceFile :=
      { path, library, kind := a.kind.getD (FileKind.ofPath path), synthesize := a.synthesize,
        generics := a.generics, dependsOn := a.dependsOn, toolArgs := a.toolArgs }
    match c.files.find? fun f => f.path == path with
    | some existing =>
      if existing.same file then .ok c else .error (.duplicateFile path existing.library)
    | none => .ok { c with files := c.files ++ [file] }

/-- Adds a constraints file; its flow is put into lower case. -/
def addConstraints (c : Catalog) (p : Path) (flow : Option String) : Catalog :=
  let path := c.resolvePath p
  { c with constraints :=
      c.constraints ++ [⟨path, FileKind.ofPath path, flow.map lowercase⟩] }

/-- Gives a value to a generic of the project. -/
def addGeneric (c : Catalog) (name : String) (value : GenericValue) : Catalog :=
  { c with generics := c.generics.insert name value }

/-- The names of a list in the order of their first occurrence. -/
def distinct : List String → List String
  | [] => []
  | s :: rest => s :: (distinct rest).filter (· ≠ s)

/-- **The libraries**, in the order in which their first files were registered. -/
def libraries (c : Catalog) : List String := distinct (c.files.map (·.library))

/-- The files of a library that is given by its exact name, in the order of registration. -/
def filesIn (c : Catalog) (library : String) : List SourceFile :=
  c.files.filter fun f => f.library == library

/-- **The files of a library**, whose name may be given in any case. -/
def filesFor (c : Catalog) (library : String) : List SourceFile := c.filesIn (lowercase library)

/-- The files that take part in synthesis. -/
def synthesisFiles (c : Catalog) : List SourceFile := c.files.filter (·.synthesize)

/-- The number of files. -/
def size (c : Catalog) : Nat := c.files.length

/-- Whether there is no file. -/
def isEmpty (c : Catalog) : Bool := c.files.isEmpty

/-- The first file that is not there, as an error. -/
def checkPresent (c : Catalog) (t : FileTree) : Except CatalogError Unit :=
  match c.files.find? fun f => !t.isFile f.path with
  | some f => .error (.missingSource f.path)
  | none => .ok ()

end Catalog

end RtlFlow
