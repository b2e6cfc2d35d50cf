import RtlFlow.Proofs.Cache.Durability
import RtlFlow.Proofs.Cache.Isolation

/-! # Generations of a loaded cache

A cache that is loaded goes on counting where its file says. Each compile is then remembered as the
newest one as long as the counter of the file is not behind its entries (`CacheContent.InStep`) and
has room for the compiles to come; and these two are all that it takes
(`BuildCache.keepsCount_iff`). Loading asks for neither of them, so a file whose counter is behind
is loaded, and what is remembered next is older than what was there (`not_forall_keepsCount`). -/

namespace RtlFlow

namespace CacheContent

variable {c : CacheContent} {name : String} {p : Path} {fingerprint : String}
  {outcome : BuildOutcome} {now : Timestamp} {g : UInt64}

/-- The generations of all entries. -/
def generations (c : CacheContent) : List UInt64 := c.toList.map fun x => x.2.2.generation

/-- **A counter that is not behind**: no entry has a greater generation than the one given out
last. -/
def InStep (c : CacheContent) : Prop := ∀ g ∈ c.generations, g ≤ c.lastGeneration

/-- **A compile that is remembered as the newest one**: its entry has a greater generation than all
entries that were there, and the counter has gone up by one. -/
structure Newest (c c' : CacheContent) (name : String) (p : Path) : Prop where
  /-- The entry is newer than all that were there. -/
  entry : ∃ e, c'.find? name p = some e ∧ ∀ g ∈ c.generations, g < e.generation
  /-- The counter has not gone round. -/
  counter : c'.lastGeneration.toNat = c.lastGeneration.toNat + 1

/-! ## What a call makes of the generations -/

theorem mem_generations :
    g ∈ c.generations ↔ ∃ x ∈ c.entries, ∃ y ∈ x.2, y.2.generation = g := by
  simp only [generations, toList, List.mem_map, List.mem_flatMap]
  constructor
  · rintro ⟨-, ⟨x, hx, y, hy, rfl⟩, rfl⟩
    exact ⟨x, hx, y, hy, rfl⟩
  · rintro ⟨x, hx, y, hy, rfl⟩
    exact ⟨_, ⟨x, hx, y, hy, rfl⟩, rfl⟩

/-- The generations of one backend are among those of all. -/
theorem mem_generations_of_mem_entriesOf {y : Path × CacheEntry} (hy : y ∈ c.entriesOf name) :
    y.2.generation ∈ c.generations := by
  rcases entriesOf_eq_nil_or_mem c name with hnil | ⟨x, hx, heq⟩
  · simp [hnil] at hy
  · exact mem_generations.mpr ⟨x, hx, y, heq ▸ hy, rfl⟩

/-- When the entries of one backend are replaced, a generation is one of theirs or was there
before. -/
theorem mem_generations_put {files : List (Path × CacheEntry)} {last : UInt64}
    (h : g ∈ (⟨last, Table.put Table.textBefore name files c.entries⟩ : CacheContent).generations) :
    g ∈ c.generations ∨ ∃ y ∈ files, y.2.generation = g := by
  obtain ⟨x, hx, y, hy, rfl⟩ := mem_generations.mp h
  rcases Table.mem_put hx with hx | heq
  · exact Or.inl (mem_generations.mpr ⟨x, hx, y, hy, rfl⟩)
  · exact Or.inr ⟨y, heq ▸ hy, rfl⟩

/-- A remembered compile brings the next generation and no other one. -/
theorem mem_generations_record
    (h : g ∈ (c.record name p fingerprint outcome now).generations) :
    g ∈ c.generations ∨ g = c.lastGeneration + 1 := by
  rcases mem_generations_put h with h | ⟨y, hy, rfl⟩
  · exact Or.inl h
  · rcases Table.mem_put hy with hy | heq
    · exact Or.inl (mem_generations_of_mem_entriesOf hy)
    · exact Or.inr (by rw [heq])

/-- A forgotten file brings no generation. -/
theorem mem_generations_forget (h : g ∈ (c.forget name p).generations) : g ∈ c.generations := by
  unfold forget forget? at h
  split at h
  · rcases mem_generations_put h with h | ⟨y, hy, rfl⟩
    · exact h
    · exact mem_generations_of_mem_entriesOf (List.mem_of_mem_filter hy)
  · exact h

/-! ## Counting on -/

/-- **A cache that counts on** for so many more compiles: its counter is not behind, and it will not
have gone round. -/
structure CountsFor (c : CacheContent) (k : Nat) : Prop where
  /-- The counter is not behind. -/
  inStep : c.InStep
  /-- The counter has room. -/
  room : c.lastGeneration.toNat + k < UInt64.size

/-- **A compile is remembered as the newest one** where there is room for it. -/
theorem CountsFor.newest {k : Nat} (h : c.CountsFor (k + 1)) (name : String) (p : Path)
    (fingerprint : String) (outcome : BuildOutcome) (now : Timestamp) :
    c.Newest (c.record name p fingerprint outcome now) name p := by
  have hroom := h.room
  have hnext : (c.lastGeneration + 1).toNat = c.lastGeneration.toNat + 1 :=
    toNat_succ le_rfl (by omega)
  refine ⟨⟨_, find?_record.trans (if_pos ⟨rfl, rfl⟩), fun g hg => ?_⟩, hnext⟩
  rw [UInt64.lt_iff_toNat_lt, hnext]
  exact Nat.lt_succ_of_le (UInt64.le_iff_toNat_le.mp (h.inStep g hg))

/-- A call takes one place of the room at most. -/
theorem CountsFor.leave {k : Nat} (h : c.CountsFor (k + 1)) (call : CacheCall) (now : Timestamp) :
    (call.leave now c).CountsFor k := by
  have hroom := h.room
  cases call with
  | record name p fingerprint outcome =>
    have hnext : (c.lastGeneration + 1).toNat = c.lastGeneration.toNat + 1 :=
      toNat_succ le_rfl (by omega)
    constructor
    · intro g hg
      show g ≤ c.lastGeneration + 1
      rw [UInt64.le_iff_toNat_le, hnext]
      rcases mem_generations_record hg with hg | rfl
      · exact Nat.le_succ_of_le (UInt64.le_iff_toNat_le.mp (h.inStep g hg))
      · exact hnext.le
    · show (c.lastGeneration + 1).toNat + k < UInt64.size
      omega
  | forget name p =>
    have hlast : (c.forget name p).lastGeneration = c.lastGeneration := lastGeneration_forget
    constructor
    · intro g hg
      show g ≤ (c.forget name p).lastGeneration
      rw [hlast]
      exact h.inStep g (mem_generations_forget hg)
    · show (c.forget name p).lastGeneration.toNat + k < UInt64.size
      rw [hlast]
      omega

theorem CountsFor.afterCalls {calls : List MadeCall} {k : Nat}
    (h : c.CountsFor (calls.length + k)) : (c.afterCalls calls).CountsFor k := by
  induction calls generalizing c with
  | nil =>
    rw [List.length_nil, Nat.zero_add] at h
    exact h
  | cons x calls ih =>
    rw [List.length_cons, Nat.succ_add] at h
    exact ih (h.leave x.call x.now)

end CacheContent

namespace BuildCache

open CacheContent CacheStore

variable {b : BuildCache} {calls : List MadeCall} {t : FileTree} {path : Path} {c : CacheContent}

/-- **A row of calls that keeps count**: each compile in it is remembered as the newest one up to
then. -/
def KeepsCount (b : BuildCache) (calls : List MadeCall) : Prop :=
  ∀ before x after, calls = before ++ x :: after →
    ∀ name p fingerprint outcome, x.call = .record name p fingerprint outcome →
      (b.afterCalls before).content.Newest (b.afterCalls (before ++ [x])).content name p

theorem afterCalls_append (b : BuildCache) (calls more : List MadeCall) :
    b.afterCalls (calls ++ more) = (b.afterCalls calls).afterCalls more := List.foldl_append

/-- The content after one more call. -/
theorem content_afterCalls_concat (b : BuildCache) (before : List MadeCall) (x : MadeCall) :
    (b.afterCalls (before ++ [x])).content = x.call.leave x.now (b.afterCalls before).content := by
  rw [afterCalls_append]
  exact x.call.content_make x.now _ x.files

/-- **A row of calls keeps count** where there is room for all of them. -/
theorem keepsCount_of_countsFor (h : b.content.CountsFor calls.length) : b.KeepsCount calls := by
  -- the calls in front of a compile have left room for it and for those behind
  rintro before ⟨call, now, files⟩ after rfl name p fingerprint outcome hcall
  obtain rfl : call = .record name p fingerprint outcome := hcall
  rw [List.length_append, List.length_cons] at h
  rw [content_afterCalls_concat, content_afterCalls]
  exact h.afterCalls.newest name p fingerprint outcome now

/-- A compile without a content of its own, as it was remembered. -/
def someRecord : MadeCall := ⟨.record "" ⟨""⟩ "" .passed, ⟨""⟩, ⟨[], []⟩⟩

/-- Where a compile is remembered as the newest one, the counter was not behind. -/
theorem inStep_of_keepsCount (h : b.KeepsCount [someRecord]) : b.content.InStep := by
  intro g hg
  obtain ⟨⟨e, he, hnewer⟩, hcounter⟩ := h [] someRecord [] rfl _ _ _ _ rfl
  rw [content_afterCalls_concat] at he hcounter
  obtain rfl := Option.some.inj (he.symm.trans (find?_record.trans (if_pos ⟨rfl, rfl⟩)))
  have hlt : g.toNat < (b.content.lastGeneration + 1).toNat :=
    UInt64.lt_iff_toNat_lt.mp (hnewer g hg)
  have hnext : (b.content.lastGeneration + 1).toNat = b.content.lastGeneration.toNat + 1 := hcounter
  rw [UInt64.le_iff_toNat_le]
  omega

/-- Where count is kept, compiles move the counter by their number. -/
theorem lastGeneration_replicate {n : Nat} (h : b.KeepsCount (List.replicate n someRecord)) :
    (b.afterCalls (List.replicate n someRecord)).content.lastGeneration.toNat =
      b.content.lastGeneration.toNat + n := by
  induction n with
  | zero => rfl
  | succ n ih =>
    rw [List.replicate_succ'] at h ⊢
    have hbefore : b.KeepsCount (List.replicate n someRecord) := fun before x after heq =>
      h before x (after ++ [someRecord]) (by simp [heq])
    have hlast := (h _ someRecord [] rfl _ _ _ _ rfl).counter
    rw [hlast, ih hbefore, Nat.add_assoc]

/-- **What it takes to count on.** A file that is loaded is opened with what it holds, and would be
with any other counter: nothing is asked of the counter. All rows of fewer than 2³² calls on the
cache keep count, whether it could be stored each time or not, if and only if the counter is not
behind the entries and has room for so many compiles. -/
theorem keepsCount_iff (hload : (file path).load t = .ok (some c)) :
    (openStore (file path)).run t = (.ok ⟨file path, c⟩, t) ∧
      (∀ last t', t'.read path = .ok (⟨last, c.entries⟩ : CacheContent).encode →
        (file path).load t' = .ok (some ⟨last, c.entries⟩)) ∧
      ((∀ calls : List MadeCall, calls.length < 4294967296 →
          (⟨file path, c⟩ : BuildCache).KeepsCount calls) ↔
        c.InStep ∧ c.lastGeneration.toNat + 4294967295 < UInt64.size) := by
  refine ⟨?_, fun last t' hread => ?_, fun h => ⟨?_, ?_⟩, fun ⟨hstep, hroom⟩ calls hcalls => ?_⟩
  · unfold openStore
    simp only [FileAction.run_bind, FileAction.run_get, hload]
    rfl
  · have hstorable := storable_of_load hload
    exact load_of_read ⟨hstorable.backends, hstorable.paths, hstorable.legible⟩ hread
  · exact inStep_of_keepsCount (h [someRecord] (by decide))
  · -- as many compiles as there may be move the counter by their number
    have hcount := lastGeneration_replicate (h (List.replicate 4294967295 someRecord) (by
      rw [List.length_replicate]
      decide))
    rw [← hcount]
    exact UInt64.toNat_lt _
  · exact keepsCount_of_countsFor ⟨hstep, by dsimp only; omega⟩

/-- A content with one entry. -/
def oneGeneration (last generation : UInt64) : CacheContent :=
  ⟨last, [("sim", [(⟨"/p/a.v"⟩, ⟨"00", .passed, ⟨"2024-05-01T12:00:00Z"⟩, generation⟩)])]⟩

/-- A tree with nothing but a file that stores it. -/
def oneGenerationFiles (last generation : UInt64) : FileTree :=
  ⟨[(["c.json"], .file (oneGeneration last generation).encode false)], []⟩

/-- Whatever the counter of that content is, it is loaded. -/
theorem load_oneGeneration (last generation : UInt64) :
    (file ⟨"/c.json"⟩).load (oneGenerationFiles last generation) =
      .ok (some (oneGeneration last generation)) := by
  have hlegible : (⟨"2024-05-01T12:00:00Z"⟩ : Timestamp).Legible := by
    unfold Timestamp.Legible
    decide +kernel
  have hstorable : (oneGeneration last generation).Storable := by
    refine ⟨List.pairwise_singleton .., fun x hx => ?_, fun x hx y hy => ?_⟩
    · obtain rfl := List.mem_singleton.mp hx
      exact List.pairwise_singleton ..
    · obtain rfl := List.mem_singleton.mp hx
      obtain rfl := List.mem_singleton.mp hy
      exact hlegible
  have hend : FileTree.endsInSeparator ⟨"/c.json"⟩ = false := by decide +kernel
  have hlocate : (oneGenerationFiles last generation).locate ⟨"/c.json"⟩ = .ok ["c.json"] :=
    FileTree.locate_eq_ok_iff.mpr ⟨by decide +kernel, rfl, fun h => by simp [hend] at h⟩
  exact load_of_read hstorable (FileTree.read_eq_ok_iff.mpr ⟨_, false, hlocate, rfl⟩)

/-- A cache whose counter stands at its newest entry counts on. -/
theorem keepsCount_oneGeneration :
    (file ⟨"/c.json"⟩).load (oneGenerationFiles 5 5) = .ok (some (oneGeneration 5 5)) ∧
      ∀ calls : List MadeCall, calls.length < 4294967296 →
        (⟨file ⟨"/c.json"⟩, oneGeneration 5 5⟩ : BuildCache).KeepsCount calls := by
  have hload := load_oneGeneration 5 5
  obtain ⟨-, -, hcounts⟩ := keepsCount_iff hload
  refine ⟨hload, hcounts.mpr ⟨?_, by decide +kernel⟩⟩
  have hgenerations : (oneGeneration 5 5).generations = [5] := rfl
  intro g hg
  rw [hgenerations] at hg
  obtain rfl := List.mem_singleton.mp hg
  exact UInt64.le_refl _

/-- **A cache that is loaded counts on**, whatever file it is loaded from. -/
def LoadedCountsOn : Prop :=
  ∀ (path : Path) (t : FileTree) (c : CacheContent), (file path).load t = .ok (some c) →
    ∀ calls : List MadeCall, calls.length < 4294967296 →
      (⟨file path, c⟩ : BuildCache).KeepsCount calls

/-- **A file whose counter is behind is loaded**, and the compile that is remembered next is older
than the one that was there. -/
theorem not_forall_keepsCount : ¬ LoadedCountsOn := by
  intro h
  have hcounts := h _ _ _ (load_oneGeneration 0 5) [someRecord] (by decide)
  exact absurd (inStep_of_keepsCount hcounts 5 (List.mem_singleton_self 5)) (by decide)

end BuildCache

end RtlFlow
