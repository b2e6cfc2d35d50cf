import RtlFlow.Catalog.FileKind
import RtlFlow.Catalog.Generics
import RtlFlow.Table

/-! # Source and constraints files

A source file with the attributes under which it is built, and a constraints file with the flow
for which it is meant. -/

namespace RtlFlow

open RtlFlow.Text.Unicode

/-- **The attributes of a source file** at its registration. -/
structure SourceAttributes where
  /-- The file takes part in synthesis. -/
  synthesize : Bool := true
  /-- Generics of the file. -/
  generics : Generics := .empty
  /-- Libraries that must be compiled before the file, in lower case. -/
  dependsOn : List String := []
  /-- Further tool arguments by tool and stage, in ascending order. -/
  toolArgs : List ((String × String) × String) := []
  /-- The kind, where it does not follow from the extension. -/
  kind : Option FileKind := none
  deriving Repr, Inhabited

namespace SourceAttributes

/-- The attributes with one more library hint, put into lower case. -/
def addHint (a : SourceAttributes) (library : String) : SourceAttributes :=
  { a with dependsOn := a.dependsOn ++ [lowercase library] }

/-- The attributes with arguments for a stage of a tool. -/
def addToolArgs (a : SourceAttributes) (tool stage args : String) : SourceAttributes :=
  { a with toolArgs := Table.put Table.pairBefore (tool, stage) args a.toolArgs }

end SourceAttributes

/-- **A registered source file.** -/
structure SourceFile where
  /-- The path, normalised. -/
  path : Path
  /-- The library into which the file is compiled, in lower case. -/
  library : String
  /-- What the file holds. -/
  kind : FileKind
  /-- The file takes part in synthesis. -/
  synthesize : Bool
  /-- Generics of the file. -/
  generics : Generics
  /-- Libraries that must be compiled before the file. -/
  dependsOn : List String
  /-- Further tool arguments by tool and stage, in ascending order. -/
  toolArgs : List ((String × String) × String)
  deriving DecidableEq, Repr, Inhabited

namespace SourceFile

/-- The arguments of the file for a stage of a tool. -/
def toolArguments? (f : SourceFile) (tool stage : String) : Option String :=
  Table.get? Table.pairBefore (tool, stage) f.toolArgs

/-- **The name under which the file is shown**: the last part of its path, or the whole path where
that is no name. -/
def displayName (f : SourceFile) : String := f.path.fileName?.getD f.path.text

/-- Whether two registrations are equal, generic values compared as values of their type. -/
def same (f g : SourceFile) : Bool :=
  f.path == g.path && f.library == g.library && f.kind == g.kind && f.synthesize == g.synthesize &&
    f.generics.same g.generics && f.dependsOn == g.dependsOn && f.toolArgs == g.toolArgs

end SourceFile

/-- **A constraints file.** -/
structure ConstraintsFile where
  /-- The path, normalised. -/
  path : Path
  /-- What the file holds. -/
  kind : FileKind
  /-- The flow that was given for the file. -/
  flow : Option String
  deriving DecidableEq, Repr, Inhabited

/-- **The flow of a constraints file**: the given one in lower case, or else the one that the
extension implies. A file without a flow suits every flow. -/
def ConstraintsFile.effectiveFlow (c : ConstraintsFile) : Option String :=
  match c.flow with
  | some flow => some (lowercase flow)
  | none => c.path.extension?.bind fun ext => flowOfExtension? (asciiLowercase ext)

end RtlFlow
