import RtlFlow.Cache.Store
import RtlFlow.Proofs.PathIdentity

/-! # What a cache remembers

What is found in a cache after a compile was remembered, a file was forgotten or everything was.
Every entry has a generation that was given out, and of two entries of a cache the one recorded
later has the greater one, as long as the counter of generations has not gone round. -/

namespace RtlFlow

namespace CacheContent

variable {c : CacheContent} {name name' : String} {p q : Path} {fingerprint : String}
  {outcome : BuildOutcome} {now : Timestamp}

/-- **A cache without a file** for a backend. -/
def forget (c : CacheContent) (name : String) (p : Path) : CacheContent :=
  (c.forget? name p).getD c

/-! ## Lookups -/

@[simp] theorem find?_empty : (({} : CacheContent).find? name p) = none := rfl

/-- Paths with one list of components have one entry. -/
theorem find?_congr (h : p.components = q.components) : c.find? name p = c.find? name q :=
  Table.get?_congr Path.identifies_before h _

theorem entriesOf_record :
    (c.record name p fingerprint outcome now).entriesOf name' =
      if name' = name then
        Table.put Path.before p ⟨fingerprint, outcome, now, c.lastGeneration + 1⟩ (c.entriesOf name)
      else c.entriesOf name' := by
  unfold record entriesOf
  rw [Table.get?_put Table.identifies_textBefore]
  by_cases h : name' = name <;> simp [h]

/-- **After a compile was remembered, its entry is found** and every other file has the entry that
it had. -/
theorem find?_record :
    (c.record name p fingerprint outcome now).find? name' q =
      if name' = name ∧ q.components = p.components then
        some ⟨fingerprint, outcome, now, c.lastGeneration + 1⟩
      else c.find? name' q := by
  unfold find?
  rw [entriesOf_record]
  by_cases h : name' = name
  · simp [h, Table.get?_put Path.identifies_before]
  · simp [h]

@[simp] theorem lastGeneration_record :
    (c.record name p fingerprint outcome now).lastGeneration = c.lastGeneration + 1 := rfl

/-- **After a file was forgotten, it has no entry** and every other one has the entry that it
had. -/
theorem find?_forget :
    (c.forget name p).find? name' q =
      if name' = name ∧ q.components = p.components then none else c.find? name' q := by
  unfold forget forget?
  by_cases hentry : (c.find? name p).isSome
  · rw [if_pos hentry, Option.getD_some]
    unfold find? entriesOf
    rw [Table.get?_put Table.identifies_textBefore]
    by_cases h : name' = name
    · simp [h, Table.get?_erase Path.identifies_before]
    · simp [h]
  · rw [if_neg hentry, Option.getD_none]
    split
    · rename_i h
      obtain ⟨rfl, hq⟩ := h
      rw [find?_congr hq]
      simpa using hentry
    · rfl

@[simp] theorem lastGeneration_forget : (c.forget name p).lastGeneration = c.lastGeneration := by
  unfold forget forget?
  split <;> rfl

/-! ## Generations -/

/-- **A cache that comes about from an empty one** by remembering `n` compiles, with files forgotten
or everything forgotten in between. -/
inductive Reachable : Nat → CacheContent → Prop
  /-- The empty cache. -/
  | empty : Reachable 0 {}
  /-- One more compile is remembered. -/
  | record {n : Nat} {c : CacheContent} (h : Reachable n c) (name : String) (p : Path)
      (fingerprint : String) (outcome : BuildOutcome) (now : Timestamp) :
      Reachable (n + 1) (c.record name p fingerprint outcome now)
  /-- A file is forgotten. -/
  | forget {n : Nat} {c : CacheContent} (h : Reachable n c) (name : String) (p : Path) :
      Reachable n (c.forget name p)
  /-- Everything is forgotten. -/
  | clear {n : Nat} {c : CacheContent} (h : Reachable n c) : Reachable n {}

/-- The counter of generations goes up by one when it has not come to its end. -/
theorem toNat_succ {g : UInt64} {n : Nat} (hg : g.toNat ≤ n) (hn : n + 1 < UInt64.size) :
    (g + 1).toNat = g.toNat + 1 := by
  rw [UInt64.toNat_add, UInt64.toNat_one]
  exact Nat.mod_eq_of_lt (lt_of_le_of_lt (Nat.succ_le_succ hg) hn)

/-- **No generation is greater than the one given out last**, and that is at most the number of
compiles that were remembered. -/
theorem Reachable.generation_le {n : Nat} (h : Reachable n c) (hn : n < UInt64.size) :
    c.lastGeneration.toNat ≤ n ∧ ∀ name p e, c.find? name p = some e →
      e.generation.toNat ≤ c.lastGeneration.toNat := by
  induction h with
  | empty => exact ⟨Nat.le_refl 0, fun _ _ _ h => by simp at h⟩
  | @record n c _ name p fingerprint outcome now ih =>
    obtain ⟨hlast, hle⟩ := ih (by omega)
    have hsucc := toNat_succ hlast hn
    rw [lastGeneration_record, hsucc]
    refine ⟨by omega, fun name' q e he => ?_⟩
    rw [find?_record] at he
    split at he
    · obtain rfl := Option.some.inj he
      exact hsucc.le
    · exact Nat.le_succ_of_le (hle name' q e he)
  | forget _ name p ih =>
    obtain ⟨hlast, hle⟩ := ih hn
    rw [lastGeneration_forget]
    refine ⟨hlast, fun name' q e he => ?_⟩
    rw [find?_forget] at he
    split at he
    · simp at he
    · exact hle name' q e he
  | clear => exact ⟨Nat.zero_le _, fun _ _ _ h => by simp at h⟩

end CacheContent

/-! ## Contents of stored caches -/

namespace BuildCache

/-- The content of a cache after a compile was remembered, whether it could be stored or not. -/
theorem content_record (b : BuildCache) (name : String) (path : Path) (fingerprint : String)
    (outcome : BuildOutcome) (now : Timestamp) (t : FileTree) :
    (b.record name path fingerprint outcome now t).1.1.content =
      b.content.record name path fingerprint outcome now := by
  unfold BuildCache.record BuildCache.update
  split <;> rfl

/-- The content of a cache after a file was forgotten, whether it could be stored or not. -/
theorem content_forget (b : BuildCache) (name : String) (path : Path) (t : FileTree) :
    (b.forget name path t).1.1.content = b.content.forget name path := by
  unfold BuildCache.forget CacheContent.forget
  cases b.content.forget? name path with
  | none => rfl
  | some content =>
    unfold BuildCache.update
    simp only [Option.getD_some]
    split <;> rfl

/-- The content of a cache that was cleared, whether its store could be emptied or not. -/
theorem content_clear (b : BuildCache) (t : FileTree) : (b.clear t).1.1.content = {} := by
  unfold BuildCache.clear
  split <;> rfl

end BuildCache

end RtlFlow
