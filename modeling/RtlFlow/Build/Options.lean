import RtlFlow.Archive
import RtlFlow.Settings.Basic
import RtlFlow.Tool.Request
import RtlFlow.Text.Unicode.CaseMap

/-! # Build options

What holds for every operation of a project: the backends for its roles, the directories, the
limits on time and the precompiled libraries. -/

namespace RtlFlow

open RtlFlow.Text.Unicode

/-- **The options of a project.** -/
structure BuildOptions where
  /-- The name used for archives. -/
  projectId : String
  /-- The backend that compiles and simulates. -/
  simulator : Option String
  /-- The backend that synthesizes. -/
  synthesizer : Option String
  /-- The part to synthesize for. -/
  part : Option String
  /-- Where compiles and simulations work. -/
  simulationDir : Path
  /-- Where syntheses work. -/
  synthesisDir : Path
  /-- Where bundles are written. -/
  archiveDir : Path
  /-- The limit on the time of the compile of a file. -/
  compileTimeout : Option Duration
  /-- The limit on the time of a simulation. -/
  simulateTimeout : Option Duration
  /-- The limit on the time of a synthesis. -/
  synthesizeTimeout : Option Duration
  /-- The precompiled libraries by backend. -/
  includes : List (String × List IncludePath)
  deriving DecidableEq, Repr, Inhabited

namespace BuildOptions

/-- The name of the directory in which compiles and simulations work. -/
def defaultSimulationDir : String := "simulation"

/-- The name of the directory in which syntheses work. -/
def defaultSynthesisDir : String := "synthesis"

/-- The name of the directory in which bundles are written. -/
def defaultArchiveDir : String := "archive"

/-- The name of the file in which a cache is stored. -/
def cacheName : String := ".hdlbuild-cache.json"

/-- The options of a project of which nothing is configured. -/
def ofRoot (root : Path) : BuildOptions where
  projectId := Archive.defaultProject
  simulator := none
  synthesizer := none
  part := none
  simulationDir := root.child defaultSimulationDir
  synthesisDir := root.child defaultSynthesisDir
  archiveDir := root.child defaultArchiveDir
  compileTimeout := none
  simulateTimeout := none
  synthesizeTimeout := none
  includes := []

/-- The directory in which an operation works. -/
def workDir (o : BuildOptions) : Operation → Path
  | .synthesize => o.synthesisDir
  | .compile | .simulate => o.simulationDir

/-- The backend for an operation where the request names none. -/
def defaultBackend (o : BuildOptions) : Operation → Option String
  | .synthesize => o.synthesizer
  | .compile | .simulate => o.simulator

/-- The precompiled libraries of a backend. -/
def includesOf (o : BuildOptions) (backend : String) : List IncludePath :=
  (Table.get? Table.textBefore backend o.includes).getD []

end BuildOptions

namespace Settings

open BuildOptions

/-- **The options that settings configure** for a project in the directory `root`. -/
def buildOptions (s : Settings) (root : Path) : BuildOptions where
  projectId := s.project.id.getD Archive.defaultProject
  simulator := s.project.simulator
  synthesizer := s.project.synthesizer
  part := s.project.part
  simulationDir := root.join (s.paths.simulationDir.getD ⟨defaultSimulationDir⟩)
  synthesisDir := root.join (s.paths.synthesisDir.getD ⟨defaultSynthesisDir⟩)
  archiveDir := root.join (s.paths.archiveDir.getD ⟨defaultArchiveDir⟩)
  compileTimeout := s.timeouts.compileSecs.map .ofSeconds
  simulateTimeout := s.timeouts.simulateSecs.map .ofSeconds
  synthesizeTimeout := s.timeouts.synthesizeSecs.map .ofSeconds
  includes := s.libraries.map fun (backend, libraries) =>
    (backend, libraries.map fun (name, p) => ⟨lowercase name, root.join p⟩)

/-- **Where the cache is stored** for a project in the directory `root`. -/
def cachePath (s : Settings) (root : Path) : Path :=
  match s.paths.cacheFile with
  | some p => root.join p
  | none => (s.buildOptions root).simulationDir.child cacheName

end Settings

end RtlFlow
