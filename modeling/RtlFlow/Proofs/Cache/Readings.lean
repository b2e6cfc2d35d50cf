import RtlFlow.Cache.Document
import RtlFlow.Proofs.Table
import Mathlib.Data.List.Forall2
import Mathlib.Data.Option.Basic

/-! # What it takes to be a stored cache

A store reads a document twice, for its version and for all of it. What both readings ask for
together is said here member by member and row by row (`CacheContent.StoredIn`): they succeed on the
documents that store a content in this sense and on no others, and give that content
(`CacheContent.decode_eq_ok_iff`). -/

namespace RtlFlow

/-- A list is read item by item when each item is read. -/
theorem mapM_eq_some_iff {α β : Type} {read : α → Option β} {xs : List α} {ys : List β} :
    xs.mapM read = some ys ↔ List.Forall₂ (fun x y => read x = some y) xs ys := by
  induction xs generalizing ys with
  | nil => simp [eq_comm]
  | cons x xs ih =>
    simp only [List.mapM_cons, Option.bind_eq_bind, Option.bind_eq_some_iff,
      List.forall₂_cons_left_iff, ← ih]
    constructor
    · rintro ⟨y, hy, rest, hrest, heq⟩
      exact ⟨y, rest, hy, hrest, (Option.some.inj heq).symm⟩
    · rintro ⟨y, rest, hy, hrest, rfl⟩
      exact ⟨y, hy, rest, hrest, rfl⟩

/-- Every item of a list that was read comes from one that was written. -/
theorem exists_of_forall₂ {α β : Type} {r : α → β → Prop} {xs : List α} {ys : List β}
    (h : List.Forall₂ r xs ys) {y : β} (hy : y ∈ ys) : ∃ x ∈ xs, r x y := by
  induction h with
  | nil => cases hy
  | cons hxy _ ih =>
    rcases List.mem_cons.mp hy with rfl | hy
    · exact ⟨_, List.mem_cons_self, hxy⟩
    · obtain ⟨x, hx, hread⟩ := ih hy
      exact ⟨x, List.mem_cons_of_mem _ hx, hread⟩

namespace Json

variable {j v : Json} {name : String} {members : List (String × Json)}

/-- **A value that is the only member of its name** in an object. -/
def Holds (j : Json) (name : String) (v : Json) : Prop :=
  ∃ before after, j = .object (before ++ (name, v) :: after) ∧
    ∀ m ∈ before ++ after, m.1 ≠ name

/-- The members of a name are one value when that is the only one of the name. -/
theorem filter_name_eq_singleton_iff :
    (members.filter fun (k, _) => k == name) = [(name, v)] ↔
      (Json.object members).Holds name v := by
  rw [List.filter_eq_cons_iff]
  constructor
  · rintro ⟨before, after, rfl, hbefore, -, hafter⟩
    rw [List.filter_eq_nil_iff] at hafter
    refine ⟨before, after, rfl, fun m hm => ?_⟩
    rcases List.mem_append.mp hm with hm | hm
    · simpa using hbefore m hm
    · simpa using hafter m hm
  · rintro ⟨before, after, heq, hother⟩
    obtain rfl := Json.object.inj heq
    refine ⟨before, after, rfl, fun m hm => ?_, by simp, List.filter_eq_nil_iff.mpr fun m hm => ?_⟩
    · simpa using hother m (List.mem_append_left _ hm)
    · simpa using hother m (List.mem_append_right _ hm)

/-- A member of a record is there when it is the only one of its name. -/
theorem soleMember_eq_some_iff :
    (match members.filter fun (k, _) => k == name with
      | [] => some none
      | [(_, v)] => some (some v)
      | _ => none) = some (some v) ↔ (Json.object members).Holds name v := by
  rw [← filter_name_eq_singleton_iff]
  split
  · rename_i heq
    simp [heq]
  · rename_i k w heq
    have hk : k = name := by
      have hmem : (k, w) ∈ members.filter fun (k, _) => k == name := by simp [heq]
      simpa using (List.mem_filter.mp hmem).2
    simp [heq, hk]
  · rename_i hnil hone
    simpa using hone name v

/-- **A record has all its members** when it is a list of them, or an object with each as the only
one of its name. -/
theorem record?_eq_some_iff {names : List String} {values : List Json} :
    j.record? names = some (values.map some) ↔
      (j = .list values ∧ values.length = names.length) ∨
      (∃ members, j = .object members) ∧ List.Forall₂ j.Holds names values := by
  cases j with
  | object members =>
    -- the names are looked up one by one
    simp only [record?, mapM_eq_some_iff, List.forall₂_map_right_iff]
    constructor
    · exact fun h => Or.inr ⟨⟨members, rfl⟩, h.imp fun _ _ => soleMember_eq_some_iff.mp⟩
    · rintro (⟨heq, -⟩ | ⟨-, h⟩)
      · cases heq
      · exact h.imp fun _ _ => soleMember_eq_some_iff.mpr
  | list items =>
    -- only the number of items counts, whatever the names are
    simp only [record?, Option.ite_none_right_eq_some, Option.some.injEq]
    have hinj : items.map some = values.map some ↔ items = values :=
      (List.map_injective_iff.mpr (Option.some_injective Json)).eq_iff
    rw [hinj]
    constructor
    · rintro ⟨hlength, rfl⟩
      exact Or.inl ⟨rfl, hlength⟩
    · rintro (⟨heq, hlength⟩ | ⟨⟨members, heq⟩, -⟩)
      · obtain rfl := Json.list.inj heq
        exact ⟨hlength, rfl⟩
      · cases heq
  | _ => simp [record?]

theorem members?_eq_some_iff : j.members? = some members ↔ j = .object members := by
  cases j <;> simp [members?]

/-- **An object that stores a table**: its members are the keys with a value each, and of two
members with one key the later one counts. -/
def StoresTable {κ α : Type} (key : String → κ) (stores : Json → α → Prop) (before : κ → κ → Bool)
    (j : Json) (table : List (κ × α)) : Prop :=
  ∃ members rows, j = .object members ∧
    List.Forall₂ (fun m x => x.1 = key m.1 ∧ stores m.2 x.2) members rows ∧
    table = Table.ofList before rows

section StoresTable

variable {κ α : Type} {key : String → κ} {stores : Json → α → Prop} {before : κ → κ → Bool}
  {table : List (κ × α)}

/-- **A table is read from the object that stores it**, value by value. -/
theorem storesTable_iff {read : Json → Option α} (hread : ∀ v x, read v = some x ↔ stores v x) :
    (do
      let rows ← (← j.members?).mapM fun m => do return (key m.1, ← read m.2)
      return Table.ofList before rows) = some table ↔ j.StoresTable key stores before table := by
  simp only [StoresTable, Option.bind_eq_bind, Option.bind_eq_some_iff, members?_eq_some_iff,
    mapM_eq_some_iff, Option.pure_def, Option.some.injEq, hread]
  constructor
  · rintro ⟨members, rfl, rows, hrows, rfl⟩
    refine ⟨members, rows, rfl, hrows.imp ?_, rfl⟩
    rintro m x ⟨y, hy, rfl⟩
    exact ⟨rfl, hy⟩
  · rintro ⟨members, rows, rfl, hrows, rfl⟩
    refine ⟨members, rfl, rows, hrows.imp ?_, rfl⟩
    rintro m ⟨k, y⟩ ⟨rfl, hy⟩
    exact ⟨y, hy, rfl⟩

/-- A table that is stored ascends. -/
theorem StoresTable.ascending (h : j.StoresTable key stores before table)
    (hb : Table.IsStrict before) : Table.Ascending before table := by
  obtain ⟨members, rows, -, -, rfl⟩ := h
  exact Table.ascending_ofList hb rows

/-- Every value of a table that is stored is stored in a member. -/
theorem StoresTable.exists_of_mem (h : j.StoresTable key stores before table) {x : κ × α}
    (hx : x ∈ table) : ∃ v, stores v x.2 := by
  obtain ⟨members, rows, -, hrows, rfl⟩ := h
  obtain ⟨y, hy, heq⟩ := Table.exists_of_mem_ofList hx
  obtain ⟨m, -, -, hstores⟩ := exists_of_forall₂ hrows hy
  exact ⟨m.2, heq ▸ hstores⟩

/-- **An ascending table is stored in an object** with a member for each of its keys. -/
theorem storesTable_map (text : κ → String) (write : α → Json) (hkey : ∀ k, key (text k) = k)
    (hb : Table.IsStrict before) (htable : Table.Ascending before table)
    (hwrite : ∀ x ∈ table, stores (write x.2) x.2) :
    (Json.object (table.map fun x => (text x.1, write x.2))).StoresTable key stores before
      table := by
  refine ⟨_, table, rfl, ?_, (Table.ofList_eq_self hb htable).symm⟩
  rw [List.forall₂_map_left_iff, List.forall₂_same]
  exact fun x hx => ⟨(hkey x.1).symm, hwrite x hx⟩

end StoresTable

/-- A natural number that a value is has at most 64 bits. -/
theorem toNat_ofNat_of_nat? {n : Nat} (h : j.nat? = some n) : (UInt64.ofNat n).toNat = n := by
  cases j with
  | number x =>
    have hx : x.toNat? = some n := h
    simp only [Numeral.toNat?, Option.ite_none_right_eq_some, Option.some.injEq] at hx
    obtain ⟨-, hbound, rfl⟩ := hx
    rw [UInt64.toNat_ofNat']
    exact Nat.mod_eq_of_lt (Nat.lt_succ_of_le hbound)
  | _ => cases h

end Json

namespace CacheContent

variable {c : CacheContent} {j v : Json}

/-- **The entries of one backend as a value stores them**, every one of them decoded. -/
def StoresFiles : Json → List (Path × CacheEntry) → Prop :=
  Json.StoresTable Path.mk (fun v e => CacheEntry.ofJson? v = some e) Path.before

/-- **A content as a document stores it**: the document is of the version of today, and every entry
of every backend is decoded. -/
structure StoredIn (c : CacheContent) (j : Json) : Prop where
  /-- The version is the one of today. -/
  version : ∃ v, j.Holds "version" v ∧ v.nat? = some schemaVersion
  /-- The generation given out last is a number of 64 bits. -/
  generation : ∃ v, j.Holds "next_generation" v ∧ v.nat? = some c.lastGeneration.toNat
  /-- The entries are those of the document. -/
  entries : ∃ v, j.Holds "entries" v ∧ v.StoresTable id StoresFiles Table.textBefore c.entries

/-! ## The two readings of a document -/

/-- A value is the version of today when it is that number. -/
theorem versionNumber?_eq_schemaVersion :
    versionNumber? v = some (some schemaVersion) ↔ v.nat? = some schemaVersion := by
  have hfilter : (v.nat?.filter (· ≤ maxVersion)).map some = some (some schemaVersion) ↔
      v.nat? = some schemaVersion := by
    simp only [Option.map_eq_some_iff, Option.filter_eq_some_iff]
    constructor
    · rintro ⟨n, ⟨hn, -⟩, heq⟩
      exact hn.trans heq
    · exact fun hn => ⟨schemaVersion, ⟨hn, by decide⟩, rfl⟩
  cases v with
  | null => simp [versionNumber?, Json.nat?]
  | _ => exact hfilter

/-- **The version of a document is the one of today** when that is the only item of a list, or the
only member of its name. -/
theorem version?_eq_schemaVersion :
    version? j = some (some schemaVersion) ↔
      ∃ v, v.nat? = some schemaVersion ∧ j.record? ["version"] = some [some v] := by
  unfold version?
  split
  · rename_i v heq
    simp [versionNumber?_eq_schemaVersion, heq]
  · rename_i heq
    simp [heq]
  · rename_i hone hnone
    simpa using fun v _ => hone v

/-- The values of the members from which a content is read. -/
theorem exists_record?_of_ofJson? (h : ofJson? j = some c) :
    ∃ version generation entries, j.record? ["version", "next_generation", "entries"] =
      some [some version, some generation, some entries] := by
  unfold ofJson? at h
  cases hvalues : j.record? ["version", "next_generation", "entries"] with
  | none => simp [hvalues] at h
  | some values =>
    simp only [hvalues, Option.bind_eq_bind, Option.bind_some] at h
    split at h
    · exact ⟨_, _, _, rfl⟩
    · cases h

/-- **A content is read from three values**: a version, a generation and a table of entries. -/
theorem ofJson?_eq_some_iff {version generation entries : Json}
    (h : j.record? ["version", "next_generation", "entries"] =
      some [some version, some generation, some entries]) :
    ofJson? j = some c ↔ (∃ n ≤ maxVersion, version.nat? = some n) ∧
      generation.nat? = some c.lastGeneration.toNat ∧
      entries.StoresTable id StoresFiles Table.textBefore c.entries := by
  have hfiles : ∀ v files, filesOfJson? v = some files ↔ StoresFiles v files :=
    fun v files => Json.storesTable_iff fun _ _ => Iff.rfl
  rw [← Json.storesTable_iff hfiles]
  unfold ofJson?
  simp only [h, Option.bind_eq_bind, Option.bind_some, Option.bind_eq_some_iff, Option.pure_def,
    Option.some.injEq, Option.filter_eq_some_iff]
  constructor
  · rintro ⟨n, ⟨hn, hbound⟩, generation, hgeneration, members, hmembers, rows, hrows, rfl⟩
    refine ⟨⟨n, by simpa using hbound, hn⟩, ?_, members, hmembers, rows, hrows, rfl⟩
    rw [hgeneration, Json.toNat_ofNat_of_nat? hgeneration]
  · rintro ⟨⟨n, hbound, hn⟩, hgeneration, members, hmembers, rows, hrows, heq⟩
    refine ⟨n, ⟨hn, by simpa using hbound⟩, _, hgeneration, members, hmembers, rows, hrows, ?_⟩
    rw [heq, UInt64.ofNat_toNat]

/-- **Both readings of a document succeed** when it stores the content. A list would have to have
one item for the one reading and three for the other. -/
theorem storedIn_iff :
    c.StoredIn j ↔ version? j = some (some schemaVersion) ∧ ofJson? j = some c := by
  constructor
  · rintro ⟨⟨version, hversion, hnumber⟩, ⟨generation, hgeneration, hlast⟩, entries, hentries,
      htable⟩
    have hobject : ∃ members, j = .object members := by
      obtain ⟨before, after, rfl, -⟩ := hversion
      exact ⟨_, rfl⟩
    have hprobe : j.record? ["version"] = some ([version].map some) :=
      Json.record?_eq_some_iff.mpr (Or.inr ⟨hobject, .cons hversion .nil⟩)
    have hall : j.record? ["version", "next_generation", "entries"] =
        some ([version, generation, entries].map some) :=
      Json.record?_eq_some_iff.mpr
        (Or.inr ⟨hobject, .cons hversion (.cons hgeneration (.cons hentries .nil))⟩)
    exact ⟨version?_eq_schemaVersion.mpr ⟨version, hnumber, hprobe⟩,
      (ofJson?_eq_some_iff hall).mpr ⟨⟨_, by decide, hnumber⟩, hlast, htable⟩⟩
  · rintro ⟨hversion, hread⟩
    obtain ⟨probed, hnumber, hprobe⟩ := version?_eq_schemaVersion.mp hversion
    obtain ⟨version, generation, entries, hall⟩ := exists_record?_of_ofJson? hread
    obtain ⟨-, hlast, htable⟩ := (ofJson?_eq_some_iff hall).mp hread
    have hprobe : j.record? ["version"] = some ([probed].map some) := hprobe
    have hall : j.record? ["version", "next_generation", "entries"] =
      some ([version, generation, entries].map some) := hall
    have hprobed := Json.record?_eq_some_iff.mp hprobe
    have hvalues := Json.record?_eq_some_iff.mp hall
    rcases hprobed with ⟨rfl, -⟩ | ⟨⟨members, rfl⟩, hprobed⟩
    · -- a list of one item is no list of three
      rcases hvalues with ⟨heq, -⟩ | ⟨⟨members, heq⟩, -⟩ <;> cases heq
    · rcases hvalues with ⟨heq, -⟩ | ⟨-, hvalues⟩
      · cases heq
      · cases hprobed with
        | cons hprobed _ =>
          cases hvalues with
          | cons _ hvalues =>
            cases hvalues with
            | cons hgeneration hvalues =>
              cases hvalues with
              | cons hentries _ =>
                exact ⟨⟨probed, hprobed, hnumber⟩, ⟨generation, hgeneration, hlast⟩,
                  entries, hentries, htable⟩

/-- **Bytes that store a content**: they write a document that stores it. -/
def Written (c : CacheContent) (bytes : List UInt8) : Prop :=
  ∃ j, Json.readBytes bytes = .ok j ∧ c.StoredIn j

/-- **Bytes are decoded to the content that they store**, and to no other. -/
theorem decode_eq_ok_iff {bytes : List UInt8} : decode bytes = .ok c ↔ c.Written bytes := by
  unfold decode Written
  cases hread : Json.readBytes bytes with
  | error e => simp
  | ok j =>
    simp only [Except.ok.injEq, exists_eq_left', storedIn_iff]
    rcases hversion : version? j with - | - | n
    · simp
    · simp
    · dsimp only
      by_cases hn : n = schemaVersion
      · rw [if_neg (not_not.mpr hn), hn]
        cases ofJson? j <;> simp
      · rw [if_pos hn]
        simp [hn]

end CacheContent

end RtlFlow
