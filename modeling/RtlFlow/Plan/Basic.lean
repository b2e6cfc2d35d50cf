import RtlFlow.Catalog.Source

/-! # Build plans

A build plan lists the libraries of a project in compile order, each with its files in compile
order. A filtered plan lists the same files with the decision whether each is to be compiled or
may be skipped. -/

namespace RtlFlow

/-- **A library with its files** in compile order. -/
structure CompileUnit where
  /-- The library. -/
  library : String
  /-- Its files. -/
  files : List SourceFile
  deriving DecidableEq, Repr, Inhabited

/-- **A build plan**: libraries in compile order. -/
structure BuildPlan where
  /-- The libraries with their files. -/
  units : List CompileUnit
  deriving DecidableEq, Repr, Inhabited

namespace BuildPlan

/-- The libraries in compile order. -/
def libraries (p : BuildPlan) : List String := p.units.map (·.library)

/-- **All files in compile order.** -/
def files (p : BuildPlan) : List SourceFile := p.units.flatMap (·.files)

/-- The number of files. -/
def size (p : BuildPlan) : Nat := p.files.length

/-- Whether there is no file. -/
def isEmpty (p : BuildPlan) : Bool := p.files.isEmpty

end BuildPlan

/-- **Why a file is to be compiled.** -/
inductive BuildReason where
  /-- Nothing is known of it. -/
  | notCached
  /-- Its content has changed. -/
  | changed
  /-- A file before it is to be compiled. -/
  | upstreamRebuilt
  /-- A file before it was compiled later than it. -/
  | upstreamNewer
  /-- It cannot be read. -/
  | unreadable
  /-- Its compiled library is gone. -/
  | libraryMissing
  deriving DecidableEq, Repr, Inhabited

/-- The wording of a reason. -/
def BuildReason.text : BuildReason → String
  | .notCached => "not cached"
  | .changed => "changed"
  | .upstreamRebuilt => "upstream rebuilt"
  | .upstreamNewer => "upstream newer"
  | .unreadable => "unreadable"
  | .libraryMissing => "library missing"

/-- **What is to be done with a file.** -/
inductive BuildAction where
  /-- Compile it. -/
  | build (reason : BuildReason)
  /-- Leave it as it is. -/
  | skip
  deriving DecidableEq, Repr, Inhabited

/-- Whether the action is to compile. -/
def BuildAction.isBuild : BuildAction → Bool
  | .build _ => true
  | .skip => false

/-- **A file with its decision.** -/
structure PlannedFile where
  /-- The file. -/
  file : SourceFile
  /-- What is to be done. -/
  action : BuildAction
  /-- The fingerprint of its present content, if it can be read. -/
  fingerprint : Option String
  deriving DecidableEq, Repr, Inhabited

/-- **A build plan with decisions**, in compile order. -/
structure FilteredPlan where
  /-- The files with their decisions. -/
  entries : List PlannedFile
  deriving DecidableEq, Repr, Inhabited

namespace FilteredPlan

/-- The files to be compiled. -/
def toBuild (p : FilteredPlan) : List PlannedFile := p.entries.filter (·.action.isBuild)

/-- The files to be skipped. -/
def skipped (p : FilteredPlan) : List PlannedFile := p.entries.filter fun e => !e.action.isBuild

/-- The plan with the files that take part in synthesis only. -/
def synthesisOnly (p : FilteredPlan) : FilteredPlan := ⟨p.entries.filter (·.file.synthesize)⟩

end FilteredPlan

end RtlFlow
