import RtlFlow.Cache.Basic
import RtlFlow.Digest.Sha256
import RtlFlow.Host.FileTree
import RtlFlow.Plan.Basic

/-! # What has to be compiled again

A file is skipped when its content is the one that was last compiled with success, its library is
still there, all files before it in the plan are skipped, and none of them was compiled later than
it. Otherwise it is compiled, and so is every file behind it. -/

namespace RtlFlow

/-- **The fingerprint of a file**: the digest of its bytes. -/
def FileTree.fingerprint (t : FileTree) (p : Path) : Except Fault String := do
  return Sha256.hex (← t.read p).toList

namespace CacheContent

/-- **The decision on a file**: `current` is its fingerprint, `entry` what is remembered of it,
`present` tells whether its library is there, `rebuilt` whether a file before it is compiled, and
`newest` is the greatest generation of the files before it. The first reason that holds is given. -/
def decision (current : Option String) (entry : Option CacheEntry) (present rebuilt : Bool)
    (newest : UInt64) : BuildAction :=
  match current, entry with
  | none, _ => .build .unreadable
  | some _, none => .build .notCached
  | some fingerprint, some e =>
    if fingerprint ≠ e.fingerprint then .build .changed
    else if !present then .build .libraryMissing
    else if rebuilt then .build .upstreamRebuilt
    else if e.generation < newest then .build .upstreamNewer
    else .skip

/-- The greatest generation of the files before the next one. -/
def newestAfter (action : BuildAction) (entry : Option CacheEntry) (newest : UInt64) : UInt64 :=
  match action, entry with
  | .skip, some e => max newest e.generation
  | _, _ => newest

/-- Decides on files in their order. -/
def decideAll (lookup : Path → Option CacheEntry) (fingerprint? : Path → Option String)
    (present : String → Bool) (rebuilt : Bool) (newest : UInt64) :
    List SourceFile → List PlannedFile
  | [] => []
  | f :: rest =>
    let current := fingerprint? f.path
    let entry := lookup f.path
    let action := decision current entry (present f.library) rebuilt newest
    ⟨f, action, current⟩ ::
      decideAll lookup fingerprint? present (rebuilt || action.isBuild)
        (newestAfter action entry newest) rest

/-- **The plan with the decisions for a backend**, where `present` tells which libraries are
there. -/
def filter (c : CacheContent) (plan : BuildPlan) (backend : String)
    (fingerprint? : Path → Option String) (present : String → Bool) : FilteredPlan :=
  ⟨decideAll (c.find? backend) fingerprint? present false 0 plan.files⟩

/-- Whether a file has the content that was last compiled for a backend. -/
def isUnchanged (c : CacheContent) (backend : String) (fingerprint? : Path → Option String)
    (p : Path) : Bool :=
  match c.find? backend p, fingerprint? p with
  | some e, some fingerprint => e.fingerprint == fingerprint
  | _, _ => false

end CacheContent

end RtlFlow
