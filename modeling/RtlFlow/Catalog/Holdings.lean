import RtlFlow.Catalog.Basic

/-! # The catalog as it is stored

The files stand in libraries, and what else the catalog keeps is derived from them and updated by
hand: the name of each library, an index from paths to the places of the files, and the paths in the
order in which they came. A registration changes all of it in turn. A place that points outside of
the libraries has no file: to ask for it gives no result at all. -/

namespace RtlFlow

open RtlFlow.Text.Unicode

/-- **A library** with its files in the order of their registration. -/
structure Library where
  /-- The name, trimmed and in lower case. -/
  name : String
  /-- The files. -/
  files : List SourceFile
  deriving Repr, Inhabited

/-- **The place of a file**: the number of its library, and its number in the library. -/
structure Place where
  /-- The number of the library. -/
  library : Nat
  /-- The number of the file in the library. -/
  file : Nat
  deriving DecidableEq, Repr, Inhabited

/-- **What a catalog stores.** -/
structure Holdings where
  /-- The directory from which relative paths are taken. -/
  root : Path
  /-- The libraries in the order in which their first files came. -/
  libraries : List Library
  /-- The place of each path. -/
  index : List (Path × Place)
  /-- The paths of all files in the order in which they came. -/
  order : List Path
  /-- The constraints files in the order in which they were added. -/
  constraints : List ConstraintsFile
  /-- The generics of the project. -/
  generics : Generics
  deriving Repr, Inhabited

/-- **An action on the holdings.** It may end with an error, and what it changed until then stays
changed; where it asks for a place that is not there, it has no result. -/
abbrev Holdings.Action (α : Type) : Type := ExceptT CatalogError (StateT Holdings Option) α

namespace Holdings

/-- The holdings of a new catalog. -/
def new (root : Path) : Holdings := ⟨root, [], [], [], [], .empty⟩

/-! ## Reading -/

/-- The path under which a file is kept: taken from the root and normalised. -/
def resolvePath (h : Holdings) (p : Path) : Path :=
  (if p.isAbsolute then p else h.root.join p).normalize

/-- The place that the index has for a path. -/
def place? (h : Holdings) (p : Path) : Option Place := Table.get? Path.before p h.index

/-- The file at a place. -/
def fileAt? (h : Holdings) (place : Place) : Option SourceFile :=
  h.libraries[place.library]?.bind (·.files[place.file]?)

/-- **The file with a path**, when there is one. -/
def file? (h : Holdings) (p : Path) : Option (Option SourceFile) :=
  match h.place? (h.resolvePath p) with
  | some place => (h.fileAt? place).map some
  | none => some none

/-- **All files** in the order in which they came. -/
def files (h : Holdings) : Option (List SourceFile) := (h.order.filterMap h.place?).mapM h.fileAt?

/-- **The files of a library**, whose name may be given in any case. -/
def filesFor (h : Holdings) (library : String) : List SourceFile :=
  match h.libraries.find? fun l => l.name == lowercase library with
  | some l => l.files
  | none => []

/-- The names of the libraries. -/
def libraryNames (h : Holdings) : List String := h.libraries.map (·.name)

/-- The number of files. -/
def size (h : Holdings) : Nat := h.order.length

/-- Whether there is no file. -/
def isEmpty (h : Holdings) : Bool := h.order.isEmpty

/-! ## Changing -/

/-- **The answer of an action and the holdings that it leaves.** -/
def perform {α : Type} (h : Holdings) (action : Action α) :
    Option (Except CatalogError α × Holdings) := action.run.run h

/-- The number of the library with a name, which is put behind the others if it is not there. -/
def openLibrary (name : String) : Action Nat := do
  let h ← get
  match h.libraries.findIdx? fun l => l.name == name with
  | some number => return number
  | none =>
    set ({ h with libraries := h.libraries ++ [⟨name, []⟩] } : Holdings)
    return h.libraries.length

/-- Puts a file at the end of a library, and answers its place. -/
def pushFile (number : Nat) (file : SourceFile) : Action Place := do
  let h ← get
  let library ← (h.libraries[number]? : Option Library)
  let filled : Library := { library with files := library.files ++ [file] }
  set ({ h with libraries := h.libraries.set number filled } : Holdings)
  return ⟨number, library.files.length⟩

/-- The file as which a path is registered. -/
def fileFor (h : Holdings) (p : Path) (library : String) (a : SourceAttributes) : SourceFile where
  path := h.resolvePath p
  library := lowercase (Text.trim library)
  kind := a.kind.getD (FileKind.ofPath (h.resolvePath p))
  synthesize := a.synthesize
  generics := a.generics
  dependsOn := a.dependsOn
  toolArgs := a.toolArgs

/-- **Registers a file in a library.** The library name is trimmed and put into lower case, and
may not be blank. To register a file again as it is changes nothing; any difference is an error. -/
def register (p : Path) (library : String) (a : SourceAttributes) : Action Unit := do
  let file := (← get).fileFor p library a
  if file.library.isEmpty then throw (.emptyLibrary file.path)
  match (← get).place? file.path with
  | some place =>
    let existing ← ((← get).fileAt? place : Option SourceFile)
    if existing.same file then return
    throw (.duplicateFile file.path existing.library)
  | none =>
    let place ← pushFile (← openLibrary file.library) file
    modify fun h => { h with index := Table.put Path.before file.path place h.index }
    modify fun h => { h with order := h.order ++ [file.path] }

/-- Registers a file in the library of the files that are registered without one. -/
def registerDefault (p : Path) (a : SourceAttributes) : Action Unit :=
  register p Catalog.defaultLibrary a

/-- Adds a constraints file; its flow is put into lower case. -/
def addConstraints (p : Path) (flow : Option String) : Action Unit :=
  modify fun h =>
    let path := h.resolvePath p
    { h with constraints := h.constraints ++ [⟨path, FileKind.ofPath path, flow.map lowercase⟩] }

/-- Gives a value to a generic of the project. -/
def addGeneric (name : String) (value : GenericValue) : Action Unit :=
  modify fun h => { h with generics := h.generics.insert name value }

/-- **A call that changes a catalog.** -/
inductive Call where
  /-- A file is registered in a library. -/
  | register (p : Path) (library : String) (a : SourceAttributes)
  /-- A file is registered without a library. -/
  | registerDefault (p : Path) (a : SourceAttributes)
  /-- A constraints file is added. -/
  | addConstraints (p : Path) (flow : Option String)
  /-- A generic is given a value. -/
  | addGeneric (name : String) (value : GenericValue)
  deriving Repr, Inhabited

/-- The path and the library under which a call registers a file. -/
def Call.registration? (root : Path) : Call → Option (Path × String)
  | .register p library _ => some ((new root).resolvePath p, lowercase (Text.trim library))
  | .registerDefault p _ =>
    some ((new root).resolvePath p, lowercase (Text.trim Catalog.defaultLibrary))
  | .addConstraints .. => none
  | .addGeneric .. => none

/-- What a call does. -/
def Call.action : Call → Action Unit
  | .register p library a => Holdings.register p library a
  | .registerDefault p a => Holdings.registerDefault p a
  | .addConstraints p flow => Holdings.addConstraints p flow
  | .addGeneric name value => Holdings.addGeneric name value

/-- **The answer of a call and the holdings that it leaves.** -/
def answer (h : Holdings) (call : Call) : Option (Except CatalogError Unit × Holdings) :=
  h.perform call.action

/-- **The answers of calls in turn and the holdings that they leave.** A call that fails is
followed by the next one. -/
def answers (h : Holdings) : List Call → Option (List (Except CatalogError Unit) × Holdings)
  | [] => some ([], h)
  | call :: rest => do
    let (x, h) ← h.answer call
    let (xs, h) ← h.answers rest
    return (x :: xs, h)

end Holdings

end RtlFlow
