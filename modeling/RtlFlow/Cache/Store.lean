import RtlFlow.Cache.Document
import RtlFlow.Host.FileTree

/-! # Cache stores

A cache is kept in a store, which is memory or a file, and every change of the cache is stored at
once. A file is replaced by writing another one beside it and renaming that, so at every moment it
holds the old or the new content as a whole. -/

namespace RtlFlow

/-- **A store**: what memory holds, or the path of a file. -/
inductive CacheStore where
  /-- Memory. -/
  | memory (content : Option CacheContent)
  /-- A file. -/
  | file (path : Path)
  deriving DecidableEq, Repr, Inhabited

/-- **A build cache**: its content and its store. -/
structure BuildCache where
  /-- Where the content is stored. -/
  store : CacheStore
  /-- The content. -/
  content : CacheContent
  deriving DecidableEq, Repr, Inhabited

namespace CacheStore

/-- **The stored content**, if any is stored. -/
def load (s : CacheStore) (t : FileTree) : Except CacheError (Option CacheContent) :=
  match s with
  | .memory content => .ok content
  | .file p =>
    if !t.isPresent p then .ok none
    else
      match t.read p with
      | .error e => .error (.io p e.message)
      | .ok bytes =>
        match CacheContent.decode bytes.toList with
        | .ok c => .ok (some c)
        | .error why => .error (.corrupt p why)

/-- The path of the file that is written before it takes the place of the stored one. -/
def sidePath (p : Path) : Path := p.withExtension "json.tmp"

/-- **The steps in which a file is stored**: its directory is created, the file beside it is
written, and that is renamed. -/
def saveSteps (p : Path) (bytes : ByteArray) : List (FileAction Fault Unit) :=
  [match p.parent? with
    | some parent => FileTree.makeDirs parent
    | none => pure (),
   FileTree.write (sidePath p) bytes,
   FileTree.rename (sidePath p) p]

/-- **Stores a content**; answers the store afterwards. -/
def save (s : CacheStore) (c : CacheContent) : FileAction CacheError CacheStore :=
  match s with
  | .memory _ => pure (.memory (some c))
  | .file p => do
    ExceptT.adapt (fun e => CacheError.io p e.message) ((saveSteps p c.encode).forM id)
    return s

/-- **Empties the store**; answers the store afterwards. -/
def clear (s : CacheStore) : FileAction CacheError CacheStore :=
  match s with
  | .memory _ => pure (.memory none)
  | .file p => do
    match (FileTree.removeFile p).run (← get) with
    | (.ok (), t) => set t
    | (.error .notFound, _) => pure ()
    | (.error e, _) => throw (.io p e.message)
    return s

end CacheStore

namespace BuildCache

/-- A cache in memory without entries. -/
def inMemory : BuildCache := ⟨.memory none, {}⟩

/-- **Opens a cache.** A stored content that cannot be trusted is cleared away, as far as that
succeeds, and the cache is empty. -/
def openStore (s : CacheStore) : FileAction CacheError BuildCache := do
  match s.load (← get) with
  | .ok (some c) => return ⟨s, c⟩
  | .ok none => return ⟨s, {}⟩
  | .error (.corrupt ..) =>
    let (result, t) := s.clear.run (← get)
    set t
    return ⟨result.toOption.getD s, {}⟩
  | .error e => throw e

/-- **Gives a cache a new content and stores it**; answers the cache afterwards, with the error
when it could not be stored. -/
def update (b : BuildCache) (c : CacheContent) : StateM FileTree (BuildCache × Option CacheError) :=
  fun t =>
    match (b.store.save c).run t with
    | (.ok store, t) => ((⟨store, c⟩, none), t)
    | (.error e, t) => (({ b with content := c }, some e), t)

/-- **Remembers a successful compile** and stores the cache. -/
def record (b : BuildCache) (backend : String) (p : Path) (fingerprint : String)
    (outcome : BuildOutcome) (now : Timestamp) :
    StateM FileTree (BuildCache × Option CacheError) :=
  b.update (b.content.record backend p fingerprint outcome now)

/-- **Forgets a file** and stores the cache, if there was something to forget. -/
def forget (b : BuildCache) (backend : String) (p : Path) :
    StateM FileTree (BuildCache × Option CacheError) :=
  match b.content.forget? backend p with
  | some c => b.update c
  | none => pure (b, none)

/-- **Forgets everything** and empties the store. -/
def clear (b : BuildCache) : StateM FileTree (BuildCache × Option CacheError) :=
  fun t =>
    match b.store.clear.run t with
    | (.ok store, t) => ((⟨store, {}⟩, none), t)
    | (.error e, t) => (({ b with content := {} }, some e), t)

end BuildCache

end RtlFlow
