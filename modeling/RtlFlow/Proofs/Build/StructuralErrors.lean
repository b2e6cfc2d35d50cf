import RtlFlow.Proofs.Build.Calls
import RtlFlow.Proofs.Build.Resume
import RtlFlow.Proofs.Targets

/-! # Structural errors

What is wrong with a request, a project or a backend is found before a tool is run, with one
exception: the generics of a file are checked when the file is to be compiled. An operation that
ends with a structural error has called nothing and has left the cache alone, or it has compiled all
files before one with a generic that the backend does not take (`Project.structural_error`). That
the second of these happens is shown by `Project.not_forall_structural_error`. -/

namespace RtlFlow

open OperationStep

/-- **Whether an error is structural**: the request, the project or the backend is at fault, and no
tool need be run to find it out. -/
def BuildError.isStructural : BuildError → Bool
  | .unknownBackend .. | .noBackend _ | .missingTarget _ | .invalidTarget _ | .resolver _ => true
  | .tool (.unsupportedOperation ..) | .tool (.notInstalled ..)
  | .tool (.unsupportedOverride ..) => true
  | _ => false

/-- What cannot be mapped was an error before. -/
theorem eq_error_of_map {ε α β : Type} {x : Except ε α} {f : α → β} {e : ε}
    (h : x.map f = .error e) : x = .error e := by
  cases x with
  | error e' => exact congrArg Except.error (Except.error.inj h)
  | ok a => simp [Except.map] at h

namespace Backend

variable {b : Backend} {e : ToolError}

/-- **An error with which a backend itself answers** some request in place of an invocation. -/
def Answers (b : Backend) (e : ToolError) : Prop :=
  (∃ q, b.compileInvocation q = .error e) ∨ (∃ q, b.simulateInvocation q = .error e) ∨
    ∃ q, b.synthesizeInvocation q = .error e

/-- A backend that can compile refuses a file for its generics, or answers itself. -/
theorem error_prepareCompile {q : CompileRequest} (hready : b.ensureReady .compile = .ok ())
    (h : b.prepareCompile q = .error e) :
    b.checkGenerics q.file.generics = .error e ∨ b.Answers e := by
  unfold prepareCompile at h
  rw [hready] at h
  cases hgenerics : b.checkGenerics q.file.generics with
  | error e' =>
    rw [hgenerics] at h
    exact Or.inl (congrArg Except.error (Except.error.inj h))
  | ok u =>
    rw [hgenerics] at h
    exact Or.inr (Or.inl ⟨q, h⟩)

/-- A backend that can simulate and takes the generics answers itself. -/
theorem error_prepareSimulate {q : SimulateRequest} (hready : b.ensureReady .simulate = .ok ())
    (hgenerics : b.checkGenerics q.generics = .ok ()) (h : b.prepareSimulate q = .error e) :
    b.Answers e := by
  unfold prepareSimulate at h
  rw [hready, hgenerics] at h
  exact Or.inr (Or.inl ⟨q, h⟩)

/-- A backend that can synthesize and takes the generics answers itself. -/
theorem error_prepareSynthesize {flow : Option String} {q : SynthesizeRequest}
    (hready : b.ensureReady .synthesize = .ok ()) (hgenerics : b.checkGenerics q.generics = .ok ())
    (h : b.prepareSynthesize flow q = .error e) : b.Answers e := by
  unfold prepareSynthesize at h
  rw [hready, hgenerics] at h
  exact Or.inr (Or.inr ⟨_, h⟩)

end Backend

namespace Project

variable {ρ : Type} {p : Project} {b : Backend} {r : OperationRequest} {cache : BuildCache}
  {session : Session ρ} {ph : Phase}

/-! ## What was checked -/

/-- **What is known of a backend that has passed the checks** for an operation. -/
structure Checked (b : Backend) (o : Operation) (g : Generics) : Prop where
  /-- It can carry out the operation. -/
  ready : b.ensureReady o = .ok ()
  /-- It takes the generics, unless it is only to compile. -/
  generics : o ≠ .compile → b.checkGenerics g = .ok ()
  /-- It can compile, if it offers to. -/
  compile : b.capabilities.supports .compile = true → b.ensureReady .compile = .ok ()

theorem checked_of_preflight {o : Operation} {g : Generics} (h : preflight b o g = .ok ()) :
    Checked b o g := by
  unfold preflight at h
  cases hready : b.ensureReady o with
  | error e => simp [hready, bind, Except.bind] at h
  | ok u =>
    by_cases ho : o = .compile
    · subst ho
      exact ⟨hready, fun hne => absurd rfl hne, fun _ => hready⟩
    · cases hgenerics : b.checkGenerics g with
      | error e => simp [hready, ho, hgenerics, bind, Except.bind] at h
      | ok u =>
        refine ⟨hready, fun _ => hgenerics, fun hsupports => ?_⟩
        simpa [hready, ho, hgenerics, hsupports, bind, Except.bind] using h

/-- The backend of a phase has passed the checks. -/
theorem checked_of_phase {c : CacheContent} {t : FileTree} (h : p.phase r c t = .ok ph) :
    Checked ph.backend r.kind (p.genericsOf r) := by
  have hplan := (phase_eq_ok h).2.1
  unfold planFor at hplan
  cases htarget : targetOf r with
  | error e => simp [htarget, bind, Except.bind] at hplan
  | ok target =>
    cases hcheck : preflight ph.backend r.kind (p.genericsOf r) with
    | error e => simp [htarget, hcheck, bind, Except.bind, Except.mapError] at hplan
    | ok u => exact checked_of_preflight hcheck

/-- A backend that does not compile has no file to compile. -/
theorem supports_of_mem_toBuild {c : CacheContent} {t : FileTree} (h : p.phase r c t = .ok ph)
    {f : PlannedFile} (hf : f ∈ ph.filtered.toBuild) :
    ph.backend.capabilities.supports .compile = true := by
  by_contra hsupports
  rw [(phase_eq_ok h).2.2, filterFor, if_neg hsupports] at hf
  simp [FilteredPlan.toBuild] at hf

/-- **There is no invocation for a file** of a phase when the backend does not take a generic of the
file, or answers itself with an error. -/
theorem error_compileCall {c : CacheContent} {t : FileTree} (h : p.phase r c t = .ok ph)
    {f : PlannedFile} (hf : f ∈ ph.filtered.toBuild) {e : ToolError}
    (he : p.compileCall ph.backend r f.file = .error e) :
    ph.backend.checkGenerics f.file.generics = .error e ∨ ph.backend.Answers e := by
  have hready := (checked_of_phase h).compile (supports_of_mem_toBuild h hf)
  exact Backend.error_prepareCompile hready (eq_error_of_map he)

/-- There is no invocation for the target of a phase only when the backend answers itself with an
error. -/
theorem error_lastCall {c : CacheContent} {t : FileTree} (h : p.phase r c t = .ok ph)
    {e : ToolError} (he : p.lastCall ph.backend r ph.plan ph.target = some (.error e)) :
    ph.backend.Answers e := by
  have hchecked := checked_of_phase h
  cases htarget : ph.target with
  | none => simp [lastCall, htarget] at he
  | some target =>
    rw [htarget] at he
    cases ho : r.kind with
    | compile => simp [lastCall, ho] at he
    | simulate =>
      have hcall : p.simulateCall ph.backend r ph.plan target = .error e := by
        simpa [lastCall, ho] using he
      rw [ho] at hchecked
      exact Backend.error_prepareSimulate hchecked.ready (hchecked.generics (by simp))
        (eq_error_of_map hcall)
    | synthesize =>
      have hcall : p.synthesizeCall ph.backend r ph.plan target = .error e := by
        simpa [lastCall, ho] using he
      rw [ho] at hchecked
      exact Backend.error_prepareSynthesize hchecked.ready (hchecked.generics (by simp))
        (eq_error_of_map hcall)

/-- What a backend does not pass of the checks is structural. -/
theorem isStructural_of_preflight {o : Operation} {g : Generics} {e : ToolError}
    (h : preflight b o g = .error e) : (BuildError.tool e).isStructural = true := by
  have hready : ∀ {o e}, b.ensureReady o = .error e → (BuildError.tool e).isStructural = true := by
    intro o e h
    unfold Backend.ensureReady at h
    split at h
    · cases h
      rfl
    · split at h
      · cases h
        rfl
      · cases h
  have hgenerics : ∀ {e}, b.checkGenerics g = .error e →
      (BuildError.tool e).isStructural = true := by
    intro e h
    unfold Backend.checkGenerics at h
    split at h
    · cases h
      rfl
    · cases h
  unfold preflight at h
  cases hfirst : b.ensureReady o with
  | error e' =>
    obtain rfl : e' = e := by simpa [hfirst, bind, Except.bind] using h
    exact hready hfirst
  | ok u =>
    by_cases ho : o = .compile
    · subst ho
      simp [hfirst, bind, Except.bind, pure, Except.pure] at h
    · cases hcheck : b.checkGenerics g with
      | error e' =>
        obtain rfl : e' = e := by simpa [hfirst, ho, hcheck, bind, Except.bind] using h
        exact hgenerics hcheck
      | ok u =>
        by_cases hsupports : b.capabilities.supports .compile = true
        · have hcompile : b.ensureReady .compile = .error e := by
            simpa [hfirst, ho, hcheck, hsupports, bind, Except.bind] using h
          exact hready hcompile
        · simp [hfirst, ho, hcheck, hsupports, bind, Except.bind, pure, Except.pure] at h

/-- A request that names no target where it should, or a text that is none, is at fault. -/
theorem isStructural_of_targetOf {e : BuildError} (h : targetOf r = .error e) :
    e.isStructural = true := by
  unfold targetOf at h
  split at h
  · cases h
  · split at h
    · cases h
      rfl
    · rw [Target.eq_of_parse_eq_error (eq_error_of_map h)]
      rfl

/-- **What is wrong before the phase of an operation is structural.** -/
theorem isStructural_of_phase {c : CacheContent} {t : FileTree} {e : BuildError}
    (h : p.phase r c t = .error e) : e.isStructural = true := by
  unfold phase at h
  cases hbackend : p.selectBackend r with
  | error e' =>
    obtain rfl : e' = e := by simpa [hbackend, bind, Except.bind] using h
    unfold selectBackend BackendRegistry.find at hbackend
    split at hbackend
    · cases hbackend
      rfl
    · split at hbackend
      · cases hbackend
      · cases hbackend
        rfl
  | ok b =>
    have hplan : p.planFor b r t = .error e := by
      cases hplan : p.planFor b r t with
      | error e' => simpa [hbackend, hplan, bind, Except.bind] using h
      | ok x => simp [hbackend, hplan, bind, Except.bind, pure, Except.pure] at h
    unfold planFor at hplan
    cases htarget : targetOf r with
    | error e' =>
      obtain rfl : e' = e := by simpa [htarget, bind, Except.bind] using hplan
      exact isStructural_of_targetOf htarget
    | ok target =>
      cases hcheck : preflight b r.kind (p.genericsOf r) with
      | error e' =>
        obtain rfl : BuildError.tool e' = e := by
          simpa [htarget, hcheck, bind, Except.bind, Except.mapError] using hplan
        exact isStructural_of_preflight hcheck
      | ok u =>
        cases hresolve : p.catalog.resolve t with
        | error e' =>
          obtain rfl : BuildError.resolver e' = e := by
            simpa [htarget, hcheck, hresolve, bind, Except.bind, Except.mapError] using hplan
          rfl
        | ok plan =>
          simp [htarget, hcheck, hresolve, bind, Except.bind, Except.mapError, pure,
            Except.pure] at hplan

/-! ## Errors of the execution -/

/-- **An error of the loop**: cancellation was asked for, a call has answered it, or there is no
invocation for the next file, when all files before it have passed. -/
theorem Compiling.error_cases {log : Option ToolRun} {cancelled c : Bool} {files : List PlannedFile}
    {calls : List Call} {answer : Except BuildError (Execution ⊕ Option ToolRun)}
    (h : p.Compiling b r log cancelled files calls c answer) {e : BuildError}
    (he : answer = .error e) :
    e = .tool (.cancelled b.executable) ∨ ∃ e', e = .tool e' ∧
      ((∃ x ∈ calls, x.reply = .error e') ∨
        ∃ f, files[calls.length]? = some f ∧ p.compileCall b r f.file = .error e' ∧
          ∀ x ∈ calls, x.passes b = true) := by
  induction h with
  | done => simp at he
  | cancelled => exact Or.inl (Except.error.inj he).symm
  | refused log files h =>
    obtain rfl := Except.error.inj he
    exact Or.inr ⟨_, rfl, Or.inr ⟨_, rfl, h, by simp⟩⟩
  | notStarted log files h e' c =>
    obtain rfl := Except.error.inj he
    exact Or.inr ⟨e', rfl, Or.inl ⟨_, List.mem_singleton_self _, rfl⟩⟩
  | stopped => simp at he
  | passed log h hpasses hrest ih =>
    rcases ih he with hcancelled | ⟨e', heq, ⟨x, hx, hreply⟩ | ⟨f, hf, hcall, hall⟩⟩
    · exact Or.inl hcancelled
    · exact Or.inr ⟨e', heq, Or.inl ⟨x, List.mem_cons_of_mem _ hx, hreply⟩⟩
    · refine Or.inr ⟨e', heq, Or.inr ⟨f, hf, hcall, fun x hx => ?_⟩⟩
      rcases List.mem_cons.mp hx with rfl | hx
      · exact hpasses
      · exact hall x hx

/-- **An error of the execution** is one of the loop, or comes from what stands behind it. -/
theorem LastRun.error_cases {plan : BuildPlan} {target : Option Target} {c c' : Bool}
    {last : List Call} {x : Except BuildError (Execution ⊕ Option ToolRun)}
    {answer : Except BuildError Execution} (h : p.LastRun b r plan target x c last c' answer)
    {e : BuildError} (he : answer = .error e) :
    (x = .error e ∧ last = []) ∨ e = .tool (.cancelled b.executable) ∨ ∃ e', e = .tool e' ∧
      ((∃ y ∈ last, y.reply = .error e') ∨ p.lastCall b r plan target = some (.error e')) := by
  cases h with
  | failed e' c =>
    obtain rfl := Except.error.inj he
    exact Or.inl ⟨rfl, rfl⟩
  | stopped => simp at he
  | cancelled => exact Or.inr (Or.inl (Except.error.inj he).symm)
  | compiled => simp at he
  | refused log h =>
    obtain rfl := Except.error.inj he
    exact Or.inr (Or.inr ⟨_, rfl, Or.inr h⟩)
  | notStarted log h e' c =>
    obtain rfl := Except.error.inj he
    exact Or.inr (Or.inr ⟨e', rfl, Or.inl ⟨_, List.mem_singleton_self _, rfl⟩⟩)
  | ran => simp at he

/-! ## Operations that end with a structural error -/

/-- **An operation that ends with a structural error** has called nothing and has left the cache as
it was, or the error is about a generic of a file, and exactly the files to be compiled before that
one were compiled, all with success. The errors that a runner or a backend gives as its own are left
aside. -/
theorem structural_error (run : Runner ρ) (clock : Clock) {e : BuildError}
    (herror : (p.operate run r clock cache session).outcome.error = some e)
    (hstructural : e.isStructural = true) :
    (p.callsOf run r clock cache session = [] ∧
        (p.operate run r clock cache session).cache = cache) ∨
      ∃ ph e', p.phase r cache.content session.files = .ok ph ∧ e = .tool e' ∧
        ((∃ f, ph.filtered.toBuild[(p.callsOf run r clock cache session).length]? = some f ∧
            ph.backend.checkGenerics f.file.generics = .error e' ∧
            ∀ x ∈ p.callsOf run r clock cache session, x.passes ph.backend = true) ∨
          (∃ x ∈ p.callsOf run r clock cache session, x.reply = .error e') ∨
          ph.backend.Answers e') := by
  cases hphase : p.phase r cache.content session.files with
  | error e' =>
    obtain ⟨name, ho⟩ := operate_of_error run clock hphase
    exact Or.inl ⟨callsOf_of_error run clock hphase, by rw [ho]⟩
  | ok ph =>
    obtain ⟨c, x, last, c', answer, hcalls, hloop, hlast, hquiet, hanswer⟩ :=
      exists_lastRun_callsOf run clock hphase
    by_cases hnone : p.callsOf run r clock cache session = []
    · exact Or.inl ⟨hnone, hquiet hnone⟩
    refine Or.inr ⟨ph, ?_⟩
    -- the error is one of the execution, since those behind it are not structural
    have hexecution : answer = .error e := by
      rcases hanswer e herror with h | rfl | ⟨o, subject, rfl⟩
      · exact h
      · simp [BuildError.isStructural] at hstructural
      · simp [BuildError.isStructural] at hstructural
    rcases hlast.error_cases hexecution with ⟨hx, rfl⟩ | rfl | ⟨e', rfl, hcase⟩
    · rw [List.append_nil] at hcalls
      rcases hloop.error_cases hx with rfl | ⟨e', rfl, hreply | ⟨f, hf, hcall, hall⟩⟩
      · simp [BuildError.isStructural] at hstructural
      · rw [← hcalls] at hreply
        exact ⟨e', rfl, rfl, Or.inr (Or.inl hreply)⟩
      · rw [← hcalls] at hf hall
        rcases error_compileCall hphase (List.mem_of_getElem? hf) hcall with hgenerics | hown
        · exact ⟨e', rfl, rfl, Or.inl ⟨f, hf, hgenerics, hall⟩⟩
        · exact ⟨e', rfl, rfl, Or.inr (Or.inr hown)⟩
    · simp [BuildError.isStructural] at hstructural
    · rcases hcase with ⟨y, hy, hreply⟩ | hrefused
      · refine ⟨e', rfl, rfl, Or.inr (Or.inl ⟨y, ?_, hreply⟩)⟩
        rw [hcalls]
        exact List.mem_append_right _ hy
      · exact ⟨e', rfl, rfl, Or.inr (Or.inr (error_lastCall hphase hrefused))⟩

/-- A backend that is not there is noticed before anything is done. -/
theorem structural_error_pair :
    pair.callsOf codeRunner ⟨.compile, none, some "other", {}⟩ ⟨⟨"now"⟩, "now"⟩ .inMemory
        (pairSession []) = [] ∧
      (pair.operate codeRunner ⟨.compile, none, some "other", {}⟩ ⟨⟨"now"⟩, "now"⟩ .inMemory
        (pairSession [])).cache = .inMemory := by
  have herror : (pair.operate codeRunner ⟨.compile, none, some "other", {}⟩ ⟨⟨"now"⟩, "now"⟩
      .inMemory (pairSession [])).outcome.error = some (.unknownBackend "other" ["sim"]) := rfl
  rcases structural_error codeRunner ⟨⟨"now"⟩, "now"⟩ herror rfl with hnone | ⟨ph, e', -, h, -⟩
  · exact hnone
  · simp at h

/-- A project of two files, the second one with a generic that its backend does not take. -/
def wide : Project where
  catalog := ⟨⟨"/p"⟩, [⟨⟨"/p/a.v"⟩, "work", .verilog, true, .empty, [], []⟩,
    ⟨⟨"/p/b.v"⟩, "work", .verilog, true, ⟨[("width", .integer 8)]⟩, [], []⟩], [], .empty⟩
  registry := pair.registry
  options := pair.options

/-- **A structural error can come after a compile**: the first of the two files is compiled before
the generic of the second one is refused. -/
theorem not_forall_structural_error :
    ¬ ∀ (ρ : Type) (p : Project) (run : Runner ρ) (r : OperationRequest) (clock : Clock)
      (cache : BuildCache) (session : Session ρ) (e : BuildError), p.catalog.Registered →
        (p.operate run r clock cache session).outcome.error = some e → e.isStructural = true →
          p.callsOf run r clock cache session = [] ∧
            (p.operate run r clock cache session).cache = cache := by
  intro h
  have hregistered : wide.catalog.Registered :=
    .register (.register (.empty ⟨"/p"⟩) ⟨"a.v"⟩ "work" {} rfl) ⟨"b.v"⟩ "work"
      { generics := ⟨[("width", .integer 8)]⟩ } rfl
  have herror : (wide.operate codeRunner ⟨.compile, none, none, {}⟩ ⟨⟨"now"⟩, "now"⟩ .inMemory
      (pairSession [])).outcome.error =
        some (.tool (.unsupportedOverride "sim" "width" "integer")) := by
    decide +kernel
  have hcalls : (wide.callsOf codeRunner ⟨.compile, none, none, {}⟩ ⟨⟨"now"⟩, "now"⟩ .inMemory
      (pairSession [])).length = 1 := by
    decide +kernel
  have hnone := (h _ wide codeRunner _ _ _ _ _ hregistered herror rfl).1
  simp [hnone] at hcalls

end Project

end RtlFlow
