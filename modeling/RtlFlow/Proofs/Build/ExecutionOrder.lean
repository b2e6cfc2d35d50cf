import RtlFlow.Proofs.Build.Calls
import RtlFlow.Proofs.Build.Resume

/-! # Execution order and abort

The calls of a compile or a simulation come in the order of the plan. When the compile of a file
begins, every file before it in the plan is skipped or has been compiled in the same run and has
passed; the simulation begins when this holds of all files. The first call that does not pass, and
the first one at whose end cancellation has been asked for, is the last one
(`Project.callsInOrder`). -/

namespace RtlFlow

namespace Project

variable {ρ : Type} {p : Project} {b : Backend} {r : OperationRequest} {cache : BuildCache}
  {session : Session ρ}

/-! ## The order of the loop -/

namespace Compiling

variable {log : Option ToolRun} {cancelled c : Bool} {files : List PlannedFile}
  {calls : List Call} {answer : Except BuildError (Execution ⊕ Option ToolRun)}

/-- **Every call of the loop is the compile of the file at its place.** -/
theorem exists_compileCall (h : p.Compiling b r log cancelled files calls c answer) {i : Nat}
    {x : Call} (hx : calls[i]? = some x) :
    ∃ f, files[i]? = some f ∧ p.compileCall b r f.file = .ok x.invocation := by
  induction h generalizing i with
  | done => simp at hx
  | cancelled => simp at hx
  | refused => simp at hx
  | notStarted log files h e c =>
    obtain ⟨rfl, rfl⟩ : i = 0 ∧ _ := by simpa [List.getElem?_singleton] using hx
    exact ⟨_, rfl, h⟩
  | stopped log files h c hpasses =>
    obtain ⟨rfl, rfl⟩ : i = 0 ∧ _ := by simpa [List.getElem?_singleton] using hx
    exact ⟨_, rfl, h⟩
  | passed log h hpasses hrest ih =>
    cases i with
    | zero =>
      obtain rfl := Option.some.inj hx
      exact ⟨_, rfl, h⟩
    | succ i => exact ih hx

/-- No call of the loop begins when cancellation has been asked for. -/
theorem cancelledBefore_eq (h : p.Compiling b r log cancelled files calls c answer) :
    ∀ x ∈ calls, x.cancelledBefore = false := by
  induction h with
  | passed log h hpasses hrest ih =>
    intro x hx
    rcases List.mem_cons.mp hx with rfl | hx
    · rfl
    · exact ih x hx
  | _ => simp

/-- When cancellation has been asked for, the loop makes no call, and nothing changes that. -/
theorem eq_nil_of_cancelled (h : p.Compiling b r log true files calls c answer) :
    calls = [] ∧ c = true := by
  cases h <;> exact ⟨rfl, rfl⟩

/-- **The loop goes on behind a call that has passed**, unless cancellation has been asked for. -/
theorem goes_on (h : p.Compiling b r log cancelled files calls c answer) {i : Nat} {x : Call}
    (hx : calls[i]? = some x) (hnext : i + 1 < calls.length) :
    x.passes b = true ∧ x.cancelledAfter = false := by
  induction h generalizing i with
  | done => simp at hnext
  | cancelled => simp at hnext
  | refused => simp at hnext
  | notStarted => simp at hnext
  | stopped => simp at hnext
  | @passed log f files invocation hcall result c c' hpasses calls answer hrest ih =>
    cases i with
    | succ i => exact ih hx (by simpa using hnext)
    | zero =>
      obtain rfl := Option.some.inj hx
      refine ⟨hpasses, ?_⟩
      -- otherwise there would be no call behind it
      by_contra hc
      obtain rfl : c = true := by simpa using hc
      simp [hrest.eq_nil_of_cancelled.1] at hnext

/-- At the end of a loop that has come to it, cancellation has been asked for if it was so at the
end of some call. -/
theorem cancelledAfter_eq (h : p.Compiling b r log cancelled files calls c answer)
    {log' : Option ToolRun} (hanswer : answer = .ok (.inr log')) (hc : c = false) :
    ∀ x ∈ calls, x.cancelledAfter = false := by
  induction h with
  | done => simp
  | cancelled => simp at hanswer
  | refused => simp at hanswer
  | notStarted => simp at hanswer
  | stopped => simp at hanswer
  | @passed log f files invocation hcall result c c' hpasses calls answer hrest ih =>
    intro x hx
    rcases List.mem_cons.mp hx with rfl | hx
    · by_contra hcancelled
      obtain rfl : c = true := by simpa using hcancelled
      simp [hrest.eq_nil_of_cancelled.2] at hc
    · exact ih hanswer hc x hx

end Compiling

/-! ## The call behind the loop -/

namespace LastRun

variable {plan : BuildPlan} {target : Option Target} {c c' : Bool} {last compiles : List Call}
  {files : List PlannedFile} {x : Except BuildError (Execution ⊕ Option ToolRun)}
  {answer : Except BuildError Execution}

/-- **A call behind the loop** is the only one; it is made when the loop has come to its end and
cancellation has not been asked for. -/
theorem eq_nil_or (h : p.LastRun b r plan target x c last c' answer) :
    last = [] ∨ ∃ y log, last = [y] ∧ x = .ok (.inr log) ∧ c = false ∧
      y.cancelledBefore = false ∧ p.lastCall b r plan target = some (.ok y.invocation) := by
  cases h with
  | notStarted log h e c => exact Or.inr ⟨_, log, rfl, rfl, rfl, rfl, h⟩
  | ran log h result c subject => exact Or.inr ⟨_, log, rfl, rfl, rfl, rfl, h⟩
  | _ => exact Or.inl rfl

/-- **An operation goes on behind a call that has passed**, unless cancellation has been asked
for. -/
theorem goes_on (hlast : p.LastRun b r plan target x c last c' answer) {cancelled : Bool}
    (hloop : p.Compiling b r none cancelled files compiles c x) {i : Nat} {y : Call}
    (hy : (compiles ++ last)[i]? = some y) (hnext : i + 1 < (compiles ++ last).length) :
    y.passes b = true ∧ y.cancelledAfter = false := by
  rcases hlast.eq_nil_or with rfl | ⟨z, log, rfl, hx, hc, -, -⟩
  · rw [List.append_nil] at hy hnext
    exact hloop.goes_on hy hnext
  · -- the call behind the loop is the last one, so that this one is a compile
    rw [List.length_append, List.length_singleton] at hnext
    rw [List.getElem?_append_left (by omega)] at hy
    have hmem := List.mem_of_getElem? hy
    exact ⟨(hloop.all_passed hx).2 y hmem, hloop.cancelledAfter_eq hx hc y hmem⟩

end LastRun

/-- The call behind the compiles of an operation that is no synthesis is that of a simulation. -/
theorem lastCall_eq_some {plan : BuildPlan} {target : Option Target} {i : Invocation}
    (hkind : r.kind ≠ .synthesize) (h : p.lastCall b r plan target = some (.ok i)) :
    r.kind = .simulate ∧ ∃ t, target = some t ∧ p.simulateCall b r plan t = .ok i := by
  cases target with
  | none => simp [lastCall] at h
  | some t =>
    cases ho : r.kind with
    | compile => simp [lastCall, ho] at h
    | simulate => exact ⟨rfl, t, rfl, by simpa [lastCall, ho] using h⟩
    | synthesize => exact absurd ho hkind

/-! ## The order of a run -/

/-- **A file that needs no compile any more** behind the first calls of a run: it is skipped, or it
was compiled by one of these calls, which has passed. -/
def Settled (ph : Phase) (compiles : List Call) (n : Nat) (f : PlannedFile) : Prop :=
  f.action = .skip ∨ ∃ j < n, ph.filtered.toBuild[j]? = some f ∧
    ∃ y, compiles[j]? = some y ∧ y.passes ph.backend = true

/-- **Calls in the order of the plan**: those of the compiles, and what comes behind them. -/
structure CallsInOrder (p : Project) (r : OperationRequest) (ph : Phase)
    (compiles last : List Call) : Prop where
  /-- The decisions stand in the order of the plan. -/
  plan : ph.filtered.entries.map (·.file) = ph.plan.files
  /-- Each call is the compile of the file at its place among those to be compiled. -/
  compile : ∀ (i : Nat) (x : Call), compiles[i]? = some x →
    ∃ f : PlannedFile, ph.filtered.toBuild[i]? = some f ∧
      p.compileCall ph.backend r f.file = .ok x.invocation
  /-- No file stands among them twice. -/
  once : ph.filtered.toBuild.Pairwise fun f g : PlannedFile =>
    f.file.path.components ≠ g.file.path.components
  /-- When the compile of a file begins, no file before it in the plan needs one any more. -/
  before : ∀ (i : Nat) (f : PlannedFile) (n : Nat), i < compiles.length →
    ph.filtered.toBuild[i]? = some f → ph.filtered.entries[n]? = some f →
      ∀ m g, m < n → ph.filtered.entries[m]? = some g → Settled ph compiles i g
  /-- At most one call comes behind the compiles. -/
  last_length : last.length ≤ 1
  /-- It is that of the simulation, and when it begins no file of the plan needs a compile. -/
  simulate : ∀ x ∈ last, r.kind = .simulate ∧
    (∃ t, ph.target = some t ∧ p.simulateCall ph.backend r ph.plan t = .ok x.invocation) ∧
    ∀ g ∈ ph.filtered.entries, Settled ph compiles compiles.length g
  /-- Behind a call that has not passed, or at whose end cancellation has been asked for, there is
  none. -/
  goes_on : ∀ (i : Nat) (x : Call), (compiles ++ last)[i]? = some x →
    i + 1 < (compiles ++ last).length → x.passes ph.backend = true ∧ x.cancelledAfter = false
  /-- No call begins when cancellation has been asked for. -/
  not_cancelled : ∀ x ∈ compiles ++ last, x.cancelledBefore = false

variable {ph : Phase} {compiles last : List Call}

/-- The decisions of a run stand in the order of its plan. -/
theorem Compiles.map_file_entries (h : p.Compiles r cache.content session.files ph) :
    ph.filtered.entries.map (·.file) = ph.plan.files := by
  rw [h.filtered_eq]
  exact CacheContent.map_file_decideAll ..

/-- The decisions of a run are about different files. -/
theorem Compiles.pairwise_entries (hc : p.catalog.Registered)
    (h : p.Compiles r cache.content session.files ph) :
    ph.filtered.entries.Pairwise fun f g => f.file.path.components ≠ g.file.path.components := by
  have hpairwise := hc.pairwise_components h.resolve_eq
  rwa [← h.map_file_entries, List.pairwise_map] at hpairwise

/-- The files that a run skips stand in front of those that it compiles. -/
theorem Compiles.entries_eq (h : p.Compiles r cache.content session.files ph) :
    ph.filtered.entries = ph.filtered.skipped ++ ph.filtered.toBuild := by
  rw [h.filtered_eq]
  exact CacheContent.entries_filter_eq ..

/-- When the first compiles have passed, no file before the next one needs a compile any more. -/
theorem Compiles.settled_of_lt (h : p.Compiles r cache.content session.files ph) {n : Nat}
    (hpassed : ∀ j < n, ∃ y, compiles[j]? = some y ∧ y.passes ph.backend = true) {m : Nat}
    {g : PlannedFile} (hm : m < ph.filtered.skipped.length + n)
    (hg : ph.filtered.entries[m]? = some g) : Settled ph compiles n g := by
  rw [h.entries_eq] at hg
  rcases Nat.lt_or_ge m ph.filtered.skipped.length with hlt | hge
  · rw [List.getElem?_append_left hlt] at hg
    have hskip := (List.mem_filter.mp (List.mem_of_getElem? hg)).2
    exact Or.inl (CacheContent.isBuild_eq_false_iff.mp (by simpa using hskip))
  · rw [List.getElem?_append_right hge] at hg
    exact Or.inr ⟨m - ph.filtered.skipped.length, by omega, hg, hpassed _ (by omega)⟩

/-- The place of a file among those to be compiled tells its place in the plan. -/
theorem Compiles.place_eq (hc : p.catalog.Registered)
    (h : p.Compiles r cache.content session.files ph) {i n : Nat} {f : PlannedFile}
    (hf : ph.filtered.toBuild[i]? = some f) (hn : ph.filtered.entries[n]? = some f) :
    n = ph.filtered.skipped.length + i := by
  have hnodup : ph.filtered.entries.Nodup :=
    (h.pairwise_entries hc).imp fun hne heq => hne (congrArg (·.file.path.components) heq)
  have hplace : ph.filtered.entries[ph.filtered.skipped.length + i]? = some f := by
    rw [h.entries_eq, List.getElem?_append_right (by omega), Nat.add_sub_cancel_left, hf]
  have hlt := (List.getElem?_eq_some_iff.mp hn).1
  exact (List.getElem?_inj hlt hnodup).mp (hn.trans hplace.symm)

/-- **The calls of a run are in the order of its plan.** -/
theorem Compiles.callsInOrder_of_lastRun (hc : p.catalog.Registered)
    (h : p.Compiles r cache.content session.files ph) {cancelled c c' : Bool}
    {x : Except BuildError (Execution ⊕ Option ToolRun)} {answer : Except BuildError Execution}
    (hloop : p.Compiling ph.backend r none cancelled ph.filtered.toBuild compiles c x)
    (hlast : p.LastRun ph.backend r ph.plan ph.target x c last c' answer) :
    p.CallsInOrder r ph compiles last where
  plan := h.map_file_entries
  compile i y hy := hloop.exists_compileCall hy
  once := (h.pairwise_entries hc).sublist List.filter_sublist
  before i f n hi hf hn m g hm hg := by
    obtain rfl := h.place_eq hc hf hn
    refine h.settled_of_lt (fun j hj => ?_) hm hg
    -- a compile with another one behind it has passed
    have hcall : compiles[j]? = some compiles[j] := List.getElem?_eq_getElem (by omega)
    exact ⟨_, hcall, (hloop.goes_on hcall (by omega)).1⟩
  last_length := by
    rcases hlast.eq_nil_or with rfl | ⟨z, log, rfl, -⟩ <;> simp
  simulate y hy := by
    rcases hlast.eq_nil_or with rfl | ⟨z, log, rfl, hx, -, -, hcall⟩
    · simp at hy
    obtain rfl := List.mem_singleton.mp hy
    obtain ⟨hsimulate, htarget⟩ := lastCall_eq_some h.kind hcall
    refine ⟨hsimulate, htarget, fun g hg => ?_⟩
    -- the loop has come to its end, so that all its files have passed
    obtain ⟨hlength, hall⟩ := hloop.all_passed hx
    obtain ⟨m, hm⟩ := List.mem_iff_getElem?.mp hg
    have hlt := (List.getElem?_eq_some_iff.mp hm).1
    refine h.settled_of_lt (fun j hj => ?_) ?_ hm
    · exact ⟨compiles[j], List.getElem?_eq_getElem hj, hall _ (List.getElem_mem hj)⟩
    · rwa [h.entries_eq, List.length_append, ← hlength] at hlt
  goes_on i y hy hnext := hlast.goes_on hloop hy hnext
  not_cancelled y hy := by
    rcases List.mem_append.mp hy with hy | hy
    · exact hloop.cancelledBefore_eq y hy
    · rcases hlast.eq_nil_or with rfl | ⟨z, log, rfl, -, -, hbefore, -⟩
      · simp at hy
      · rwa [List.mem_singleton.mp hy]

/-- **Execution order and abort**, for a compile or a simulation with a backend that compiles, with
any replies of the runner and any requests for cancellation. Without a phase, or when cancellation
has been asked for from the beginning, there is no call at all. -/
theorem callsInOrder (hc : p.catalog.Registered) (hkind : r.kind ≠ .synthesize)
    (hsupports : ∀ b, p.selectBackend r = .ok b → b.capabilities.supports .compile = true)
    (run : Runner ρ) (clock : Clock) (cache : BuildCache) (session : Session ρ) :
    (session.cancelled = true → p.callsOf run r clock cache session = []) ∧
      match p.phase r cache.content session.files with
      | .error _ => p.callsOf run r clock cache session = []
      | .ok ph => ∃ last,
          p.callsOf run r clock cache session =
            p.compileCallsOf run r clock cache session ++ last ∧
          p.CallsInOrder r ph (p.compileCallsOf run r clock cache session) last := by
  cases hphase : p.phase r cache.content session.files with
  | error e =>
    have hnone := callsOf_of_error run clock hphase
    exact ⟨fun _ => hnone, hnone⟩
  | ok ph =>
    have hrun : p.Compiles r cache.content session.files ph :=
      ⟨hphase, hkind, hsupports _ (phase_eq_ok hphase).1⟩
    obtain ⟨c, x, last, c', answer, hcalls, hloop, hlast, -, -⟩ :=
      exists_lastRun_callsOf run clock hphase
    refine ⟨fun hcancelled => ?_, last, hcalls, hrun.callsInOrder_of_lastRun hc hloop hlast⟩
    rw [hcancelled] at hloop
    obtain ⟨hnone, rfl⟩ := hloop.eq_nil_of_cancelled
    rw [hcalls, hnone]
    rcases hlast.eq_nil_or with rfl | ⟨z, log, -, -, hc, -, -⟩
    · rfl
    · simp at hc

/-- When the compile of the first of two files does not pass, the second one is not compiled. -/
theorem callsInOrder_pair :
    ∃ x, (pair.callsOf codeRunner ⟨.compile, none, none, {}⟩ ⟨⟨"now"⟩, "now"⟩ .inMemory
        (pairSession [1])) = [x] ∧ x.passes (steadyBackend "sim") = false := by
  have hsupports : ∀ b, pair.selectBackend ⟨.compile, none, none, {}⟩ = .ok b →
      b.capabilities.supports .compile = true := by
    intro b hb
    obtain rfl := (Except.ok.inj hb : steadyBackend "sim" = b)
    rfl
  obtain ⟨-, h⟩ := callsInOrder registered_pair (by simp) hsupports codeRunner
    ⟨⟨"now"⟩, "now"⟩ .inMemory (pairSession [1])
  have hphase : pair.phase ⟨.compile, none, none, {}⟩ BuildCache.inMemory.content
      (pairSession [1]).files = .ok (pairPhase {}) := (compiles_pair {}).phase
  rw [hphase] at h
  obtain ⟨last, hcalls, horder⟩ := h
  have hfirst : (pair.callsOf codeRunner ⟨.compile, none, none, {}⟩ ⟨⟨"now"⟩, "now"⟩ .inMemory
      (pairSession [1])).head?.map (·.passes (steadyBackend "sim")) = some false := by
    decide +kernel
  rw [hcalls] at hfirst ⊢
  -- a call behind the first one would tell that the first one has passed
  rcases hall : pair.compileCallsOf codeRunner ⟨.compile, none, none, {}⟩ ⟨⟨"now"⟩, "now"⟩
    .inMemory (pairSession [1]) ++ last with - | ⟨x, - | ⟨y, more⟩⟩
  · simp [hall] at hfirst
  · exact ⟨x, rfl, by simpa [hall] using hfirst⟩
  · have hpassed := horder.goes_on 0 x (by rw [hall]; rfl) (by simp [hall])
    rw [hall] at hfirst
    exact absurd (hpassed.1.symm.trans (Option.some.inj hfirst)) (by simp)

end Project

end RtlFlow
