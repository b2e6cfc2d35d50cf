import RtlFlow.Proofs.Cache.Entries
import RtlFlow.Proofs.Cache.Readings
import RtlFlow.Proofs.Json.RoundTrip

/-! # What a stored cache holds

The bytes that store a content are decoded to that content (`decode_encode`), as long as its tables
are in order and its times can be read (`CacheContent.Storable`). Every content that comes about can
be stored in this sense: the empty one, one that was decoded, and what remembering and forgetting
make of one that can. -/

namespace RtlFlow

/-- **A point in time that is read again** from its own text. -/
def Timestamp.Legible (t : Timestamp) : Prop := Timestamp.parse? t.text = some t

/-- A point in time that was read is the text that it was read from. -/
theorem Timestamp.eq_of_parse? {s : String} {t : Timestamp} (h : Timestamp.parse? s = some t) :
    t = ⟨s⟩ := by
  unfold Timestamp.parse? at h
  cases hdate : date? s.toList with
  | none => simp [hdate] at h
  | some x =>
    obtain ⟨date, cs⟩ := x
    simp only [hdate, Option.bind_eq_bind, Option.bind_some] at h
    cases cs with
    | nil => simp at h
    | cons c rest =>
      dsimp only at h
      split at h
      · simp only [Option.bind_eq_some_iff] at h
        obtain ⟨⟨minute, rest⟩, -, ⟨offset, rest'⟩, -, h⟩ := h
        dsimp only at h
        split at h
        · exact (Option.some.inj h).symm
        · cases h
      · cases h

/-- A point in time that was read is read again. -/
theorem Timestamp.legible_of_parse? {s : String} {t : Timestamp}
    (h : Timestamp.parse? s = some t) : t.Legible := by
  obtain rfl := Timestamp.eq_of_parse? h
  exact h

/-- A number of 64 bits is read again. -/
theorem Json.nat?_nat {n : Nat} (h : n ≤ Numeral.maxUnsigned) : (Json.nat n).nat? = some n := by
  show (Numeral.ofNat n).toNat? = some n
  unfold Numeral.toNat? Numeral.ofNat
  simp [Numeral.isWhole, Json.digitsValue_toDigits, h]

theorem toNat_le_maxUnsigned (n : UInt64) : n.toNat ≤ Numeral.maxUnsigned :=
  Nat.le_of_lt_succ n.toNat_lt

namespace CacheEntry

variable {e : CacheEntry}

theorem plain_toJson (e : CacheEntry) : e.toJson.Plain := by
  refine .object fun m hm => ?_
  simp only [List.mem_cons, List.not_mem_nil, or_false] at hm
  rcases hm with rfl | rfl | rfl | rfl
  · exact .text _
  · exact .text _
  · exact .text _
  · exact .nat _

/-- **An entry is read again** when its time is. -/
theorem ofJson?_toJson (h : e.recordedAt.Legible) : ofJson? e.toJson = some e := by
  have hmembers : e.toJson.record? ["fingerprint", "outcome", "recorded_at", "generation"] =
      some [some (.text e.fingerprint), some (.text e.outcome.keyword),
        some (.text e.recordedAt.text), some (.nat e.generation.toNat)] := rfl
  have houtcome : BuildOutcome.ofKeyword? e.outcome.keyword = some e.outcome := by
    cases e.outcome <;> rfl
  have htime : Timestamp.parse? e.recordedAt.text = some e.recordedAt := h
  unfold ofJson?
  simp [hmembers, Json.text?, Json.keyword?, houtcome, htime,
    Json.nat?_nat (toNat_le_maxUnsigned _)]

/-- The time of an entry that was read is read again. -/
theorem legible_of_ofJson? {j : Json} (h : ofJson? j = some e) : e.recordedAt.Legible := by
  unfold ofJson? at h
  cases hmembers : j.record? ["fingerprint", "outcome", "recorded_at", "generation"] with
  | none => simp [hmembers] at h
  | some members =>
    simp only [hmembers, Option.bind_eq_bind, Option.bind_some] at h
    split at h
    · simp only [Option.bind_eq_some_iff] at h
      obtain ⟨fingerprint, -, keyword, -, outcome, -, text, -, time, htime, n, -, h⟩ := h
      obtain rfl := Option.some.inj h
      exact Timestamp.legible_of_parse? htime
    · cases h

end CacheEntry

namespace CacheContent

variable {c : CacheContent}

/-- **A content that can be stored**: its tables are in ascending order, and the times of its
entries can be read. -/
structure Storable (c : CacheContent) : Prop where
  /-- The backends ascend. -/
  backends : Table.Ascending Table.textBefore c.entries
  /-- The paths of each backend ascend. -/
  paths : ∀ x ∈ c.entries, Table.Ascending Path.before x.2
  /-- Every time is read again. -/
  legible : ∀ x ∈ c.entries, ∀ y ∈ x.2, y.2.recordedAt.Legible

/-! ## Reading what was written -/

theorem plain_toJson (c : CacheContent) : c.toJson.Plain := by
  refine .object fun m hm => ?_
  simp only [List.mem_cons, List.not_mem_nil, or_false] at hm
  rcases hm with rfl | rfl | rfl
  · exact .nat _
  · exact .nat _
  · refine .object fun m hm => ?_
    obtain ⟨x, -, rfl⟩ := List.mem_map.mp hm
    refine .object fun m hm => ?_
    obtain ⟨y, -, rfl⟩ := List.mem_map.mp hm
    exact y.2.plain_toJson

/-- The entries of a backend are stored in what is written of them. -/
theorem storesFiles_toJson {files : List (Path × CacheEntry)}
    (hpaths : Table.Ascending Path.before files) (hlegible : ∀ y ∈ files, y.2.recordedAt.Legible) :
    StoresFiles (.object (files.map fun (p, e) => (p.text, e.toJson))) files :=
  Json.storesTable_map Path.text CacheEntry.toJson (fun _ => rfl) Path.isStrict_before hpaths
    fun y hy => CacheEntry.ofJson?_toJson (hlegible y hy)

/-- **A content is stored in its stored form.** -/
theorem Storable.storedIn (h : c.Storable) : c.StoredIn c.toJson where
  version := ⟨_, ⟨[], _, rfl, by simp⟩, Json.nat?_nat (by decide)⟩
  generation := ⟨_, ⟨[_], _, rfl, by simp⟩, Json.nat?_nat (toNat_le_maxUnsigned _)⟩
  entries := ⟨_, ⟨[_, _], [], rfl, by simp⟩,
    Json.storesTable_map id (fun files => .object (files.map fun (p, e) => (p.text, e.toJson)))
      (fun _ => rfl) Table.isStrict_textBefore h.backends
      fun x hx => storesFiles_toJson (h.paths x hx) (h.legible x hx)⟩

/-- **The bytes that store a content are decoded to it.** -/
theorem Storable.decode_encode (h : c.Storable) : decode c.encode.toList = .ok c :=
  decode_eq_ok_iff.mpr ⟨c.toJson, Json.readBytes_pretty (plain_toJson c), h.storedIn⟩

/-! ## Contents that can be stored -/

theorem storable_empty : ({} : CacheContent).Storable where
  backends := Table.ascending_nil
  paths _ h := absurd h List.not_mem_nil
  legible _ h := absurd h List.not_mem_nil

/-- The entries of a backend are those of one row of the table, or there are none. -/
theorem entriesOf_eq_nil_or_mem (c : CacheContent) (name : String) :
    c.entriesOf name = [] ∨ ∃ x ∈ c.entries, x.2 = c.entriesOf name := by
  unfold entriesOf
  cases hfiles : Table.get? Table.textBefore name c.entries with
  | none => exact Or.inl rfl
  | some files => exact Or.inr (Table.exists_mem_of_get? hfiles)

variable {name : String}

theorem Storable.ascending_entriesOf (h : c.Storable) :
    Table.Ascending Path.before (c.entriesOf name) := by
  rcases entriesOf_eq_nil_or_mem c name with hnil | ⟨x, hx, heq⟩
  · rw [hnil]
    exact Table.ascending_nil
  · exact heq ▸ h.paths x hx

theorem Storable.legible_entriesOf (h : c.Storable) {y : Path × CacheEntry}
    (hy : y ∈ c.entriesOf name) : y.2.recordedAt.Legible := by
  rcases entriesOf_eq_nil_or_mem c name with hnil | ⟨x, hx, heq⟩
  · simp [hnil] at hy
  · exact h.legible x hx y (heq ▸ hy)

/-- A content can still be stored when the entries of one backend are replaced by others that
can. -/
theorem Storable.put (h : c.Storable) {files : List (Path × CacheEntry)}
    (hpaths : Table.Ascending Path.before files) (hlegible : ∀ y ∈ files, y.2.recordedAt.Legible)
    (g : UInt64) :
    (⟨g, Table.put Table.textBefore name files c.entries⟩ : CacheContent).Storable where
  backends := h.backends.put Table.isStrict_textBefore name files
  paths x hx := by
    rcases Table.mem_put hx with hx | heq
    · exact h.paths x hx
    · exact heq ▸ hpaths
  legible x hx := by
    rcases Table.mem_put hx with hx | heq
    · exact h.legible x hx
    · exact heq ▸ hlegible

/-- **A content with a compile remembered can be stored.** -/
theorem Storable.record (h : c.Storable) {p : Path} {fingerprint : String} {outcome : BuildOutcome}
    {now : Timestamp} (hnow : now.Legible) :
    (c.record name p fingerprint outcome now).Storable := by
  refine h.put (h.ascending_entriesOf.put Path.isStrict_before p _) (fun y hy => ?_) _
  rcases Table.mem_put hy with hy | heq
  · exact h.legible_entriesOf hy
  · rw [heq]
    exact hnow

/-- **A content without a file can be stored.** -/
theorem Storable.forget? (h : c.Storable) {p : Path} {c' : CacheContent}
    (hforget : c.forget? name p = some c') : c'.Storable := by
  unfold CacheContent.forget? at hforget
  split at hforget
  · obtain rfl := Option.some.inj hforget
    exact h.put (h.ascending_entriesOf.erase p)
      (fun y hy => h.legible_entriesOf (List.mem_of_mem_filter hy)) _
  · cases hforget

/-- **A content that was decoded can be stored.** -/
theorem storable_of_decode {bytes : List UInt8} (h : decode bytes = .ok c) : c.Storable := by
  obtain ⟨j, -, hstored⟩ := decode_eq_ok_iff.mp h
  obtain ⟨v, -, htable⟩ := hstored.entries
  refine ⟨htable.ascending Table.isStrict_textBefore, fun x hx => ?_, fun x hx y hy => ?_⟩
  · obtain ⟨w, hfiles⟩ := htable.exists_of_mem hx
    exact hfiles.ascending Path.isStrict_before
  · obtain ⟨w, hfiles⟩ := htable.exists_of_mem hx
    obtain ⟨u, hentry⟩ := hfiles.exists_of_mem hy
    exact CacheEntry.legible_of_ofJson? hentry

end CacheContent

end RtlFlow
