import RtlFlow.Cache.Basic
import RtlFlow.Error
import RtlFlow.Json.Reading
import RtlFlow.Json.Writing

/-! # The stored form of a cache

A cache is stored as a JSON object with a schema version, the generation given out last, and the
entries by backend and path. The version is looked at first, and nothing is taken from a document
of another version or from one that cannot be decoded as a whole. Members with other names are
passed over, whatever stands in them. -/

namespace RtlFlow

namespace Json

/-- The values of the members of a record, by name or in a list in the order of the names. A
member may be given once only, and members with other names are passed over. -/
def record? (names : List String) : Json → Option (List (Option Json))
  | .object members =>
    names.mapM fun name =>
      match members.filter fun (k, _) => k == name with
      | [] => some none
      | [(_, v)] => some (some v)
      | _ => none
  | .list items => if items.length = names.length then some (items.map some) else none
  | _ => none

/-- The keyword that a value is: a string, or an object that maps the keyword to nothing. -/
def keyword? : Json → Option String
  | .text s => some s
  | .object [(s, .null)] => some s
  | _ => none

end Json

namespace CacheEntry

/-- The stored form of an entry. -/
def toJson (e : CacheEntry) : Json :=
  .object [("fingerprint", .text e.fingerprint), ("outcome", .text e.outcome.keyword),
    ("recorded_at", .text e.recordedAt.text), ("generation", .nat e.generation.toNat)]

/-- The entry that a value stores. -/
def ofJson? (j : Json) : Option CacheEntry := do
  match ← j.record? ["fingerprint", "outcome", "recorded_at", "generation"] with
  | [some fingerprint, some outcome, some recordedAt, some generation] =>
    let fingerprint ← fingerprint.text?
    let outcome ← BuildOutcome.ofKeyword? (← outcome.keyword?)
    let recordedAt ← Timestamp.parse? (← recordedAt.text?)
    return ⟨fingerprint, outcome, recordedAt, UInt64.ofNat (← generation.nat?)⟩
  | _ => none

end CacheEntry

namespace CacheContent

/-- The schema version of stored caches. -/
def schemaVersion : Nat := 1

/-- The greatest number that is a schema version. -/
def maxVersion : Nat := 4294967295

/-- **The stored form of a cache.** -/
def toJson (c : CacheContent) : Json :=
  .object [("version", .nat schemaVersion), ("next_generation", .nat c.lastGeneration.toNat),
    ("entries", .object (c.entries.map fun (backend, files) =>
      (backend, .object (files.map fun (p, e) => (p.text, e.toJson)))))]

/-- The version number that a value is, where `null` is none. -/
def versionNumber? : Json → Option (Option Nat)
  | .null => some none
  | j => (j.nat?.filter (· ≤ maxVersion)).map some

/-- The schema version of a document: none when it has none, and an error when what stands in its
place is no version. -/
def version? (j : Json) : Option (Option Nat) :=
  match j.record? ["version"] with
  | some [some v] => versionNumber? v
  | some [none] => some none
  | _ => none

/-- The entries of a backend that a value stores. -/
def filesOfJson? (j : Json) : Option (List (Path × CacheEntry)) := do
  let files ← (← j.members?).mapM fun (p, v) => do return ((⟨p⟩ : Path), ← CacheEntry.ofJson? v)
  return Table.ofList Path.before files

/-- The content that a document of the right version stores. -/
def ofJson? (j : Json) : Option CacheContent := do
  match ← j.record? ["version", "next_generation", "entries"] with
  | [some version, some generation, some entries] =>
    let _ ← (version.nat?).filter (· ≤ maxVersion)
    let generation ← generation.nat?
    let entries ← (← entries.members?).mapM fun (backend, v) => do
      return (backend, ← filesOfJson? v)
    return ⟨UInt64.ofNat generation, Table.ofList Table.textBefore entries⟩
  | _ => none

/-- **The content that bytes store.** -/
def decode (bytes : List UInt8) : Except Corruption CacheContent :=
  match Json.readBytes bytes with
  | .error e => .error (.undecodable e.message)
  | .ok j =>
    match version? j with
    | none => .error (.undecodable "the schema version is no number")
    | some none => .error .noVersion
    | some (some v) =>
      if v ≠ schemaVersion then .error (.version v schemaVersion)
      else
        match ofJson? j with
        | some c => .ok c
        | none => .error (.undecodable "the content does not fit the schema")

/-- **The bytes that store a content.** -/
def encode (c : CacheContent) : ByteArray := c.toJson.pretty.toUTF8

end CacheContent

end RtlFlow
