import RtlFlow.Path
import RtlFlow.Table
import RtlFlow.Timestamp

/-! # Cache contents

What is remembered of compiles: for each backend and file, the fingerprint that the file had when
it was last compiled with success. Every entry gets the next number of one counter, its generation,
so of two entries the one recorded later has the greater generation. -/

namespace RtlFlow

/-- **How a remembered compile ended.** -/
inductive BuildOutcome where
  /-- Without warnings. -/
  | passed
  /-- With warnings. -/
  | passedWithWarnings
  deriving DecidableEq, Repr, Inhabited

namespace BuildOutcome

/-- The name of an outcome. -/
def keyword : BuildOutcome → String
  | .passed => "passed"
  | .passedWithWarnings => "passed_with_warnings"

/-- All outcomes. -/
def all : List BuildOutcome := [.passed, .passedWithWarnings]

/-- The outcome with a keyword. -/
def ofKeyword? (s : String) : Option BuildOutcome := all.find? fun o => o.keyword == s

end BuildOutcome

/-- **The last successful compile of a file.** -/
structure CacheEntry where
  /-- The fingerprint of the content that was compiled. -/
  fingerprint : String
  /-- How the compile ended. -/
  outcome : BuildOutcome
  /-- When it was recorded. -/
  recordedAt : Timestamp
  /-- Its number in the order of records. -/
  generation : UInt64
  deriving DecidableEq, Repr, Inhabited

/-- **All that is remembered**: by backend and by path, in ascending order of both. -/
structure CacheContent where
  /-- The generation given out last. -/
  lastGeneration : UInt64 := 0
  /-- The entries by backend and path. -/
  entries : List (String × List (Path × CacheEntry)) := []
  deriving DecidableEq, Repr, Inhabited

namespace CacheContent

/-- The entries of a backend. -/
def entriesOf (c : CacheContent) (backend : String) : List (Path × CacheEntry) :=
  (Table.get? Table.textBefore backend c.entries).getD []

/-- **The entry of a file** for a backend. -/
def find? (c : CacheContent) (backend : String) (p : Path) : Option CacheEntry :=
  Table.get? Path.before p (c.entriesOf backend)

/-- **Remembers a successful compile** under the next generation. -/
def record (c : CacheContent) (backend : String) (p : Path) (fingerprint : String)
    (outcome : BuildOutcome) (now : Timestamp) : CacheContent :=
  let generation := c.lastGeneration + 1
  let entry : CacheEntry := ⟨fingerprint, outcome, now, generation⟩
  ⟨generation,
    Table.put Table.textBefore backend (Table.put Path.before p entry (c.entriesOf backend))
      c.entries⟩

/-- **Forgets a file** for a backend; none when there was nothing to forget. -/
def forget? (c : CacheContent) (backend : String) (p : Path) : Option CacheContent :=
  if (c.find? backend p).isSome then
    let left := Table.erase Path.before p (c.entriesOf backend)
    some { c with entries := Table.put Table.textBefore backend left c.entries }
  else none

/-- All entries with their backends and paths, in order. -/
def toList (c : CacheContent) : List (String × Path × CacheEntry) :=
  c.entries.flatMap fun (backend, files) => files.map fun (p, e) => (backend, p, e)

/-- The number of entries. -/
def size (c : CacheContent) : Nat := c.toList.length

/-- Whether there is no entry. -/
def isEmpty (c : CacheContent) : Bool := c.toList.isEmpty

end CacheContent

end RtlFlow
