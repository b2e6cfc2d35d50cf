import RtlFlow.Plan.DependencyGraph
import RtlFlow.Plan.Basic
import RtlFlow.Catalog.Basic
import RtlFlow.Vhdl.Scan
import RtlFlow.Text.Utf8

/-! # Compile order

A library is compiled after every library of the catalog that one of its files needs, and inside a
library a file is compiled after the file that provides a unit to which it refers. Libraries that
need each other are an error. Files of one library that refer to each other keep, with all files
of that library, the order of their registration. -/

namespace RtlFlow

/-- What is known about the files of a catalog, by path. -/
abbrev FactTable := List (Path × HdlFacts)

/-- The facts about the file with a path; how the path is spelled does not matter. -/
def FactTable.about? (facts : FactTable) (p : Path) : Option HdlFacts :=
  (facts.find? fun (q, _) => q.same p).map (·.2)

namespace Catalog

/-- The libraries that a file needs or is hinted to need. -/
def neededLibraries (facts : FactTable) (f : SourceFile) : List String :=
  (((facts.about? f.path).map fun h => h.requiredLibraries f.library).getD []) ++ f.dependsOn

/-- **The graph of the libraries**: each depends on the libraries of the catalog that its files
need. -/
def libraryGraph (c : Catalog) (facts : FactTable) : DependencyGraph String :=
  let known := c.libraries
  let start := known.foldl DependencyGraph.addNode .empty
  c.files.foldl (fun g f =>
    (neededLibraries facts f).foldl (fun g needed =>
      if needed ≠ f.library ∧ needed ∈ known then g.addDependency f.library needed else g) g) start

/-- The units that the files of a library provide, each with the position of its file, in the
order of the files. -/
def unitProviders (facts : FactTable) (files : List SourceFile) : List (String × Nat) :=
  files.zipIdx.flatMap fun (f, i) =>
    (((facts.about? f.path).map HdlFacts.providedUnits).getD []).map fun unit => (unit, i)

/-- The position of the first file that provides a unit. -/
def providerOf? (providers : List (String × Nat)) (unit : String) : Option Nat :=
  (providers.find? fun (u, _) => u == unit).map (·.2)

/-- **The graph of the files of a library**, by position: each depends on the first file that
provides a unit to which it refers. -/
def fileGraph (facts : FactTable) (library : String) (files : List SourceFile) :
    DependencyGraph Nat :=
  let providers := unitProviders facts files
  let start := (List.range files.length).foldl DependencyGraph.addNode .empty
  files.zipIdx.foldl (fun g (f, i) =>
    match facts.about? f.path with
    | none => g
    | some h =>
      (h.localReferences library).foldl (fun g unit =>
        match providerOf? providers unit with
        | some p => g.addDependency i p
        | none => g) g) start

/-- **The files of a library in compile order.** -/
def orderFiles (facts : FactTable) (library : String) (files : List SourceFile) :
    List SourceFile :=
  match (fileGraph facts library files).order? with
  | some order => order.filterMap fun i => files[i]?
  | none => files

/-- **The build plan of a catalog** from the facts about its files. Nothing is known of a file
without facts. -/
def resolveWith (c : Catalog) (facts : FactTable) : Except ResolverError BuildPlan :=
  match (c.libraryGraph facts).sort with
  | .error ring => .error (.cyclicDependency ring)
  | .ok libraries =>
    .ok ⟨libraries.map fun l => ⟨l, orderFiles facts l (c.filesFor l)⟩⟩

/-- The facts about the files that can be scanned, read from the file tree. Bytes that are no
UTF-8 are read as replacement characters. -/
def scanFiles (t : FileTree) : List SourceFile → Except ResolverError FactTable
  | [] => .ok []
  | f :: rest =>
    if f.kind.isScanned then
      match t.read f.path with
      | .error e => .error (.missingSource f.path e.message)
      | .ok bytes => do
        let facts := HdlFacts.ofText (Text.decode bytes.toList)
        return (f.path, facts) :: (← scanFiles t rest)
    else scanFiles t rest

/-- **The build plan of a catalog**, from the files themselves. -/
def resolve (c : Catalog) (t : FileTree) : Except ResolverError BuildPlan := do
  c.resolveWith (← scanFiles t c.files)

end Catalog

end RtlFlow
