import RtlFlow.Proofs.Cache.Decisions

/-! # Backends that share a cache

All backends of a cache draw their generations from one counter, so the calls for one backend move
the numbers that another one gets. They do not move their order: caches that are `Alike` for a
backend remember its files with the same fingerprints and with generations in the same order, a call
for it keeps them alike (`Alike.leave`), and a call for another one leaves them alone
(`find?_leave_of_ne`). Since the decisions only compare generations, two rows of calls that are the
same for a backend are followed by the same decisions for it (`BuildCache.filter_afterCalls`). -/

namespace RtlFlow

/-- **A call by which a cache learns of the end of a compile.** -/
inductive CacheCall where
  /-- A compile has passed and is remembered. -/
  | record (backend : String) (p : Path) (fingerprint : String) (outcome : BuildOutcome)
  /-- A compile has failed, and the file is forgotten. -/
  | forget (backend : String) (p : Path)

namespace CacheCall

/-- The backend for which a call is made. -/
def backend : CacheCall → String
  | record backend .. => backend
  | forget backend _ => backend

/-- **What a call makes of a content.** -/
def leave (call : CacheCall) (now : Timestamp) (c : CacheContent) : CacheContent :=
  match call with
  | record backend p fingerprint outcome => c.record backend p fingerprint outcome now
  | forget backend p => c.forget backend p

/-- **The call on a cache**, which is stored at once. -/
def make (call : CacheCall) (now : Timestamp) (b : BuildCache) :
    StateM FileTree (BuildCache × Option CacheError) :=
  match call with
  | record backend p fingerprint outcome => b.record backend p fingerprint outcome now
  | forget backend p => b.forget backend p

/-- A call makes of a cache what it makes of its content, whether that could be stored or not. -/
theorem content_make (call : CacheCall) (now : Timestamp) (b : BuildCache) (t : FileTree) :
    (call.make now b t).1.1.content = call.leave now b.content := by
  cases call with
  | record backend p fingerprint outcome => exact b.content_record ..
  | forget backend p => exact b.content_forget ..

end CacheCall

/-- **A call as it was made**: at a point in time and with the file tree as it was then. -/
structure MadeCall where
  /-- The call. -/
  call : CacheCall
  /-- When it was made. -/
  now : Timestamp
  /-- The file tree in which it was made. -/
  files : FileTree

/-- **The cache after a row of calls**, whether it could be stored each time or not. -/
def BuildCache.afterCalls (b : BuildCache) (calls : List MadeCall) : BuildCache :=
  calls.foldl (fun b x => (x.call.make x.now b x.files).1.1) b

namespace CacheContent

/-- The content after a row of calls. -/
def afterCalls (c : CacheContent) (calls : List MadeCall) : CacheContent :=
  calls.foldl (fun c x => x.call.leave x.now c) c

variable {c c' d : CacheContent} {name : String} {calls calls' : List MadeCall}

/-! ## Calls for another backend -/

/-- **A call for another backend** leaves every entry of this one alone. -/
theorem find?_leave_of_ne {call : CacheCall} (h : call.backend ≠ name) (now : Timestamp)
    (c : CacheContent) (p : Path) : (call.leave now c).find? name p = c.find? name p := by
  cases call with
  | record backend q fingerprint outcome =>
    exact find?_record.trans (if_neg fun heq => h heq.1.symm)
  | forget backend q =>
    exact find?_forget.trans (if_neg fun heq => h heq.1.symm)

/-- Calls for other backends leave every entry of this one alone. -/
theorem find?_afterCalls_of_ne (h : ∀ x ∈ calls, x.call.backend ≠ name) (c : CacheContent)
    (p : Path) : (c.afterCalls calls).find? name p = c.find? name p := by
  induction calls generalizing c with
  | nil => rfl
  | cons x calls ih =>
    obtain ⟨hx, hrest⟩ := List.forall_mem_cons.mp h
    exact (ih hrest _).trans (find?_leave_of_ne hx x.now c p)

/-! ## Room for generations -/

/-- **A cache whose counter has room** for so many more compiles: it comes about from an empty one,
and the counter will not have gone round. -/
def HasRoom (c : CacheContent) (k : Nat) : Prop := ∃ n, Reachable n c ∧ n + k < UInt64.size

/-- The next generation is greater than all that are there. -/
theorem HasRoom.lt_next {k : Nat} (h : c.HasRoom (k + 1)) {p : Path} {e : CacheEntry}
    (he : c.find? name p = some e) : e.generation < c.lastGeneration + 1 := by
  obtain ⟨n, hreach, hn⟩ := h
  obtain ⟨hlast, hle⟩ := hreach.generation_le (by omega)
  rw [UInt64.lt_iff_toNat_lt, toNat_succ hlast (by omega)]
  exact Nat.lt_succ_of_le (hle name p e he)

/-- A call takes one place of the room at most. -/
theorem HasRoom.leave {k : Nat} (h : c.HasRoom (k + 1)) (call : CacheCall) (now : Timestamp) :
    (call.leave now c).HasRoom k := by
  obtain ⟨n, hreach, hn⟩ := h
  cases call with
  | record backend p fingerprint outcome => exact ⟨n + 1, hreach.record .., by omega⟩
  | forget backend p => exact ⟨n, hreach.forget .., by omega⟩

theorem HasRoom.afterCalls {k : Nat} (h : c.HasRoom (calls.length + k)) :
    (c.afterCalls calls).HasRoom k := by
  induction calls generalizing c with
  | nil =>
    rw [List.length_nil, Nat.zero_add] at h
    exact h
  | cons x calls ih =>
    rw [List.length_cons, Nat.succ_add] at h
    exact ih (h.leave x.call x.now)

/-! ## Caches that are alike for a backend -/

/-- **Caches that are alike for a backend**: they hold the same files with the same fingerprints,
and of two files the same one is the older. -/
structure Alike (name : String) (c c' : CacheContent) : Prop where
  /-- The files and their fingerprints are the same. -/
  fingerprint : ∀ p, (c.find? name p).map (·.fingerprint) = (c'.find? name p).map (·.fingerprint)
  /-- The generations are in the same order. -/
  older_iff : ∀ {p q : Path} {e f e' f' : CacheEntry}, c.find? name p = some e →
    c.find? name q = some f → c'.find? name p = some e' → c'.find? name q = some f' →
    (e.generation < f.generation ↔ e'.generation < f'.generation)

theorem Alike.refl (name : String) (c : CacheContent) : Alike name c c where
  fingerprint _ := rfl
  older_iff he hf he' hf' := by
    rw [Option.some.inj (he.symm.trans he'), Option.some.inj (hf.symm.trans hf')]

/-- Only the entries of the backend count. -/
theorem Alike.congr (h : Alike name c c') {d d' : CacheContent}
    (hd : ∀ p, d.find? name p = c.find? name p) (hd' : ∀ p, d'.find? name p = c'.find? name p) :
    Alike name d d' where
  fingerprint p := by rw [hd, hd', h.fingerprint]
  older_iff he hf he' hf' := by
    rw [hd] at he hf
    rw [hd'] at he' hf'
    exact h.older_iff he hf he' hf'

/-- **Caches that remember the same compile stay alike**: it is the newest one in both. -/
theorem Alike.record (h : Alike name c c') {k k' : Nat} (hc : c.HasRoom (k + 1))
    (hc' : c'.HasRoom (k' + 1)) (p : Path) (fingerprint : String) (outcome : BuildOutcome)
    (now now' : Timestamp) :
    Alike name (c.record name p fingerprint outcome now)
      (c'.record name p fingerprint outcome now') where
  fingerprint q := by
    simp only [find?_record]
    split
    · rfl
    · exact h.fingerprint q
  older_iff {q r e f e' f'} he hf he' hf' := by
    rw [find?_record] at he hf he' hf'
    by_cases hq : q.components = p.components <;> by_cases hr : r.components = p.components
    · -- both are the new one
      rw [if_pos ⟨rfl, hq⟩] at he he'
      rw [if_pos ⟨rfl, hr⟩] at hf hf'
      cases he
      cases hf
      cases he'
      cases hf'
      exact iff_of_false (UInt64.lt_irrefl _) (UInt64.lt_irrefl _)
    · -- the new one is not older than another one
      rw [if_pos ⟨rfl, hq⟩] at he he'
      rw [if_neg fun heq => hr heq.2] at hf hf'
      cases he
      cases he'
      exact iff_of_false (UInt64.lt_asymm (hc.lt_next hf)) (UInt64.lt_asymm (hc'.lt_next hf'))
    · rw [if_neg fun heq => hq heq.2] at he he'
      rw [if_pos ⟨rfl, hr⟩] at hf hf'
      cases hf
      cases hf'
      exact iff_of_true (hc.lt_next he) (hc'.lt_next he')
    · rw [if_neg fun heq => hq heq.2] at he he'
      rw [if_neg fun heq => hr heq.2] at hf hf'
      exact h.older_iff he hf he' hf'

/-- Caches that forget the same file stay alike. -/
theorem Alike.forget (h : Alike name c c') (p : Path) :
    Alike name (c.forget name p) (c'.forget name p) where
  fingerprint q := by
    simp only [find?_forget]
    split
    · rfl
    · exact h.fingerprint q
  older_iff {q r e f e' f'} he hf he' hf' := by
    rw [find?_forget] at he hf he' hf'
    split at he
    · cases he
    · split at hf
      · cases hf
      · rename_i hq hr
        rw [if_neg hq] at he'
        rw [if_neg hr] at hf'
        exact h.older_iff he hf he' hf'

/-- **A call for the backend keeps caches alike**, whenever it is made in each. -/
theorem Alike.leave (h : Alike name c c') {k k' : Nat} (hc : c.HasRoom (k + 1))
    (hc' : c'.HasRoom (k' + 1)) {call : CacheCall} (hcall : call.backend = name)
    (now now' : Timestamp) : Alike name (call.leave now c) (call.leave now' c') := by
  subst hcall
  cases call with
  | record backend p fingerprint outcome => exact h.record hc hc' p fingerprint outcome now now'
  | forget backend p => exact h.forget p

/-- The calls of a row that are made for a backend. -/
def callsFor (name : String) (calls : List MadeCall) : List CacheCall :=
  (calls.filter fun x => x.call.backend = name).map (·.call)

/-- **Rows of calls that are the same for a backend keep caches alike for it.** -/
theorem Alike.afterCalls (h : Alike name c c') (hc : c.HasRoom calls.length)
    (hc' : c'.HasRoom calls'.length) (hcalls : callsFor name calls = callsFor name calls') :
    Alike name (c.afterCalls calls) (c'.afterCalls calls') := by
  induction calls generalizing c c' calls' with
  | nil =>
    -- all calls of the other row are for other backends
    have hnone : ∀ x ∈ calls', x.call.backend ≠ name := by
      simpa [callsFor] using hcalls.symm
    exact h.congr (fun _ => rfl) (find?_afterCalls_of_ne hnone c')
  | cons x calls ih =>
    by_cases hx : x.call.backend = name
    · -- the other row has the same call, behind calls for other backends
      rw [callsFor, List.filter_cons_of_pos (by simpa using hx), List.map_cons, eq_comm, callsFor,
        List.map_eq_cons_iff] at hcalls
      obtain ⟨y, ys, hfilter, hy, hrest⟩ := hcalls
      obtain ⟨before, after, rfl, hbefore, -, hafter⟩ := List.filter_eq_cons_iff.mp hfilter
      have hothers : ∀ z ∈ before, z.call.backend ≠ name := fun z hz => by
        simpa using hbefore z hz
      have hmiddle := h.congr (fun _ => rfl) (find?_afterCalls_of_ne hothers c')
      rw [List.length_append, List.length_cons] at hc'
      have hroom := hc'.afterCalls
      have hstep := hmiddle.leave hc hroom hx x.now y.now
      rw [show (c'.afterCalls (before ++ y :: after)) =
        (y.call.leave y.now (c'.afterCalls before)).afterCalls after by
          simp [CacheContent.afterCalls]]
      refine ih ?_ (hc.leave x.call x.now) (hroom.leave y.call y.now) ?_
      · rwa [hy]
      · rw [callsFor, callsFor, hafter, hrest]
    · rw [callsFor, List.filter_cons_of_neg (by simpa using hx)] at hcalls
      exact ih (h.congr (find?_leave_of_ne hx x.now c) fun _ => rfl) (hc.leave x.call x.now) hc'
        hcalls

/-! ## Decisions -/

/-- **Generations on either side of a bound**: a file of one cache is older than what stands before
it when that file of the other cache is. -/
def SameBelow (lookup lookup' : Path → Option CacheEntry) (newest newest' : UInt64) : Prop :=
  ∀ {p : Path} {e e' : CacheEntry}, lookup p = some e → lookup' p = some e' →
    (e.generation < newest ↔ e'.generation < newest')

/-- **The decision on a file** is the same in caches that are alike. -/
theorem Alike.decision_eq (h : Alike name c c') {newest newest' : UInt64}
    (hbelow : SameBelow (c.find? name) (c'.find? name) newest newest') (current : Option String)
    (p : Path) (here rebuilt : Bool) :
    decision current (c.find? name p) here rebuilt newest =
      decision current (c'.find? name p) here rebuilt newest' := by
  have hfingerprint := h.fingerprint p
  cases hfind : c.find? name p with
  | none =>
    rw [hfind] at hfingerprint
    rw [Option.map_eq_none_iff.mp hfingerprint.symm]
    cases current <;> rfl
  | some e =>
    rw [hfind] at hfingerprint
    obtain ⟨e', hfind', he'⟩ := Option.map_eq_some_iff.mp hfingerprint.symm
    rw [hfind']
    cases current with
    | none => rfl
    | some fingerprint =>
      simp only [decision, he', hbelow hfind hfind']

/-- The bound behind a file is still the same in caches that are alike. -/
theorem Alike.sameBelow_newestAfter (h : Alike name c c') {newest newest' : UInt64}
    (hbelow : SameBelow (c.find? name) (c'.find? name) newest newest') (action : BuildAction)
    (p : Path) :
    SameBelow (c.find? name) (c'.find? name) (newestAfter action (c.find? name p) newest)
      (newestAfter action (c'.find? name p) newest') := by
  intro q e e' he he'
  have hfingerprint := h.fingerprint p
  cases action with
  | build reason => exact hbelow he he'
  | skip =>
    cases hfind : c.find? name p with
    | none =>
      rw [hfind] at hfingerprint
      rw [Option.map_eq_none_iff.mp hfingerprint.symm]
      exact hbelow he he'
    | some f =>
      rw [hfind] at hfingerprint
      obtain ⟨f', hfind', -⟩ := Option.map_eq_some_iff.mp hfingerprint.symm
      rw [hfind']
      dsimp only [newestAfter]
      rw [lt_max_generation, lt_max_generation, hbelow he he', h.older_iff he hfind he' hfind']

/-- The decisions on files in their order are the same in caches that are alike. -/
theorem Alike.decideAll_eq (h : Alike name c c') (fingerprint? : Path → Option String)
    (present : String → Bool) (rebuilt : Bool) {newest newest' : UInt64}
    (hbelow : SameBelow (c.find? name) (c'.find? name) newest newest') (files : List SourceFile) :
    decideAll (c.find? name) fingerprint? present rebuilt newest files =
      decideAll (c'.find? name) fingerprint? present rebuilt newest' files := by
  induction files generalizing rebuilt newest newest' with
  | nil => rfl
  | cons f files ih =>
    have haction := h.decision_eq hbelow (fingerprint? f.path) f.path (present f.library) rebuilt
    unfold decideAll
    dsimp only
    rw [haction]
    exact congrArg _ (ih _ (h.sameBelow_newestAfter hbelow _ f.path))

/-- **Caches that are alike for a backend decide alike for it** on every plan. -/
theorem Alike.filter_eq (h : Alike name c c') (plan : BuildPlan)
    (fingerprint? : Path → Option String) (present : String → Bool) :
    c.filter plan name fingerprint? present = c'.filter plan name fingerprint? present := by
  -- no generation is below the one with which a plan begins
  have hbelow : SameBelow (c.find? name) (c'.find? name) 0 0 := fun _ _ =>
    iff_of_false UInt64.not_lt_zero UInt64.not_lt_zero
  exact congrArg FilteredPlan.mk (h.decideAll_eq fingerprint? present false hbelow plan.files)

end CacheContent

namespace BuildCache

open CacheContent

theorem content_afterCalls (b : BuildCache) (calls : List MadeCall) :
    (b.afterCalls calls).content = b.content.afterCalls calls := by
  induction calls generalizing b with
  | nil => rfl
  | cons x calls ih =>
    refine (ih _).trans ?_
    rw [x.call.content_make]
    rfl

/-- **Backends do not interfere through the cache.** Two rows of calls on a cache that are the same
for a backend are followed by the same decisions for it on every plan, whatever calls for other
backends stand in them and whether the cache could be stored each time, as long as the counter of
generations, which has 64 bits, does not go round. -/
theorem filter_afterCalls (b : BuildCache) {n : Nat} (hreach : Reachable n b.content)
    {calls calls' : List MadeCall} (hroom : n + calls.length < UInt64.size)
    (hroom' : n + calls'.length < UInt64.size) {name : String}
    (hcalls : callsFor name calls = callsFor name calls') (plan : BuildPlan)
    (fingerprint? : Path → Option String) (present : String → Bool) :
    (b.afterCalls calls).content.filter plan name fingerprint? present =
      (b.afterCalls calls').content.filter plan name fingerprint? present := by
  have halike :=
    (Alike.refl name b.content).afterCalls ⟨n, hreach, hroom⟩ ⟨n, hreach, hroom'⟩ hcalls
  rw [content_afterCalls, content_afterCalls]
  exact halike.filter_eq plan fingerprint? present

/-- Two compiles for synthesis. -/
def callsAlone : List MadeCall :=
  [⟨.record "synth" ⟨"/p/a.v"⟩ "first" .passed, ⟨"now"⟩, ⟨[], []⟩⟩,
    ⟨.record "synth" ⟨"/p/b.v"⟩ "second" .passed, ⟨"now"⟩, ⟨[], []⟩⟩]

/-- The same compiles, between others for simulation. -/
def callsBetween : List MadeCall :=
  [⟨.record "sim" ⟨"/p/a.v"⟩ "first" .passed, ⟨"now"⟩, ⟨[], []⟩⟩,
    ⟨.record "synth" ⟨"/p/a.v"⟩ "first" .passed, ⟨"later"⟩, ⟨[], []⟩⟩,
    ⟨.record "sim" ⟨"/p/b.v"⟩ "second" .passed, ⟨"later"⟩, ⟨[], []⟩⟩,
    ⟨.record "synth" ⟨"/p/b.v"⟩ "second" .passed, ⟨"later"⟩, ⟨[], []⟩⟩,
    ⟨.forget "sim" ⟨"/p/a.v"⟩, ⟨"later"⟩, ⟨[], []⟩⟩]

/-- The compiles for synthesis have other generations between others, and count as they would
alone. -/
theorem filter_afterCalls_between :
    ((inMemory.afterCalls callsBetween).content.find? "synth" ⟨"/p/b.v"⟩).map (·.generation) =
        some 4 ∧
      ((inMemory.afterCalls callsAlone).content.find? "synth" ⟨"/p/b.v"⟩).map (·.generation) =
        some 2 ∧
      callsFor "synth" callsBetween = callsFor "synth" callsAlone ∧
      ∀ plan fingerprint? present,
        (inMemory.afterCalls callsBetween).content.filter plan "synth" fingerprint? present =
          (inMemory.afterCalls callsAlone).content.filter plan "synth" fingerprint? present := by
  have hcalls : callsFor "synth" callsBetween = callsFor "synth" callsAlone := rfl
  exact ⟨by decide +kernel, by decide +kernel, hcalls,
    inMemory.filter_afterCalls .empty (by decide) (by decide) hcalls⟩

end BuildCache

end RtlFlow
