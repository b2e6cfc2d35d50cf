import RtlFlow.Proofs.Build.CapturedOutput
import RtlFlow.Proofs.Build.Verdicts
import RtlFlow.Proofs.Classification
import RtlFlow.Proofs.Tool.Capture
import RtlFlow.Proofs.Tool.Starts

/-! # The log of compiles and the messages on it

The output of compiles is taken down file by file, and what is shown of it at the end is one log, in
which the streams of all compiles stand one behind the other. The two agree when every stream ends
with a line feed, since the lines of the log are then those of the files (`perm_output`). A runner
that starts processes gives only such streams (`Launch.wholeLines_carryOut`), and for an operation
that ends with its compiles the log holds all compiles, in their order (`Project.merged_log`). -/

namespace RtlFlow

open OperationStep

/-- **A result of whole lines**: each stream is empty or ends with a line feed. -/
def ToolResult.WholeLines (r : ToolResult) : Prop :=
  Text.WholeLines r.stdout ∧ Text.WholeLines r.stderr

/-- **A call that has answered with whole lines**, if it has answered with a result. -/
def Call.WholeLines (x : Call) : Prop := ∀ result, x.reply = .ok result → result.WholeLines

/-! ## What processes write -/

namespace Launch

variable {ρ : Type} {launch : Launcher} {limits : Limits} {r : ToolResult} {now : Nat}
  {cs : List ToolCommand} {s : Session ρ} {starts : List Start} {ending : Ending ρ}

theorem wholeLines_kept (o : Output) (n : Nat) : Text.WholeLines (o.kept n) := by
  rw [Output.kept]
  split
  · exact wholeLines_capture _
  · exact wholeLines_capture _

/-- **What a command gives is whole lines.** -/
theorem wholeLines_of_run_await {c : ToolCommand} {t t' : FileTree} {o : StepOutput}
    (h : (await launch limits now c).run t = (.ok o, t')) :
    Text.WholeLines o.stdout ∧ Text.WholeLines o.stderr := by
  have hawaits := awaits_run launch limits now c t
  rw [h] at hawaits
  cases hawaits with
  | ended => exact ⟨wholeLines_kept _ _, wholeLines_kept _ _⟩

theorem wholeLines_extend (hr : r.WholeLines) {o : StepOutput}
    (ho : Text.WholeLines o.stdout ∧ Text.WholeLines o.stderr) :
    (extend launch r o).WholeLines :=
  ⟨hr.1.append ho.1, hr.2.append ho.2⟩

/-- **Commands in turn write whole lines** behind whole lines. -/
theorem Runs.wholeLines (h : Runs launch limits r now cs s starts ending) (hr : r.WholeLines)
    {result : ToolResult} (hok : ending.1 = .ok result) : result.WholeLines := by
  induction h with
  | done =>
    cases hok
    exact hr
  | noDirectory => cases hok
  | noResult => cases hok
  | last _ hawait =>
    cases hok
    exact wholeLines_extend hr (wholeLines_of_run_await hawait)
  | next _ hawait _ _ ih => exact ih (wholeLines_extend hr (wholeLines_of_run_await hawait)) hok

/-- **Carrying out an invocation gives whole lines**, whatever the processes write. -/
theorem wholeLines_carryOut {i : Invocation} {result : ToolResult}
    (h : ((carryOut launch i).run s).1 = .ok result) : result.WholeLines := by
  cases hending : (carryOut launch i).run s with
  | mk reply s' =>
    obtain ⟨starts, hcarries⟩ := run_carryOut_iff.mp hending
    have hreply : reply = .ok result := (congrArg Prod.fst hending).symm.trans h
    cases hcarries with
    | unwritten => cases hreply
    | noDeadline => cases hreply
    | written _ _ hruns =>
      exact hruns.wholeLines ⟨Text.wholeLines_empty, Text.wholeLines_empty⟩ hreply

/-- **A runner that starts processes**: every result that it gives is one that carrying out the
invocation gives, on the machine as it is then. Of a run without a result, by a panic for instance,
nothing is said. -/
def StartsProcesses (run : Runner ρ) : Prop :=
  ∀ i s result, (run i s).1 = .ok result →
    ∃ launch : Launcher, ((carryOut launch i).run s).1 = .ok result

end Launch

/-! ## Calls and their runner -/

namespace Project

variable {ρ : Type} {p : Project} {run : Runner ρ} {b : Backend} {r : OperationRequest}
  {clock : Clock} {cache : BuildCache} {session : Session ρ}

/-- **Calls to which a runner has given the answers.** -/
def AnsweredBy (run : Runner ρ) (calls : List Call) : Prop :=
  ∀ x ∈ calls, ∃ s, (run x.invocation s).1 = x.reply

/-- What leaves the calls alone leaves them answered. -/
theorem triple_answeredBy_of_keeps {α : Type} {a : OperationStep (ρ × List Call) α}
    (h : Keeps Progress.calls a) :
    Triple (fun q => AnsweredBy run q.calls) a (fun _ q => AnsweredBy run q.calls)
      (fun _ q => AnsweredBy run q.calls) :=
  h.triple (fun _ hq => hq) (fun _ _ hq => hq) fun _ _ hq => hq

/-- A run of a tool is answered by the runner. -/
theorem triple_answeredBy_ofRun (run : Runner ρ) (limit : Option Duration)
    (made : Except ToolError Invocation) :
    Triple (fun q => AnsweredBy run q.calls) (ofRun (run.observed.execute limit made))
      (fun _ q => AnsweredBy run q.calls) (fun _ q => AnsweredBy run q.calls) := by
  intro q hq
  rw [run_ofRun_execute]
  cases made.map (·.within limit) with
  | error e => exact hq
  | ok i =>
    have hmore : AnsweredBy run (run.observed i q.session).2.runner.2 := by
      intro x hx
      rcases List.mem_append.mp hx with hx | hx
      · exact hq x hx
      · obtain rfl := List.mem_singleton.mp hx
        exact ⟨q.session.plain, rfl⟩
    dsimp only
    rcases hrun : run.observed i q.session with ⟨e | result, s⟩ <;> rw [hrun] at hmore
    · exact hmore
    · exact hmore

theorem triple_answeredBy_compileAll (p : Project) (run : Runner ρ) (b : Backend)
    (r : OperationRequest) (clock : Clock) (log : Option ToolRun) (files : List PlannedFile) :
    Triple (fun q => AnsweredBy run q.calls) (p.compileAll run.observed b r clock log files)
      (fun _ q => AnsweredBy run q.calls) (fun _ q => AnsweredBy run q.calls) := by
  have hsettle (f : PlannedFile) (one : ToolRun) : Keeps Progress.calls
      (settle b clock f one : OperationStep (ρ × List Call) Unit) :=
    fun q => congrArg (·.2.1.2) (keeps_settle b clock f one q)
  induction files generalizing log with
  | nil => exact .pure fun _ hq => hq
  | cons f files ih =>
    refine .bind (.bind (triple_answeredBy_of_keeps (keeps_stopIfCancelled b)) fun _ =>
      .bind (triple_answeredBy_ofRun run _ _) fun one =>
        .bind (triple_answeredBy_of_keeps (hsettle f one)) fun _ => .pure fun _ hq => hq)
      fun one => ?_
    dsimp only
    split
    · exact ih _
    · exact .pure fun _ hq => hq

theorem triple_answeredBy_executeFor (p : Project) (run : Runner ρ) (b : Backend)
    (r : OperationRequest) (clock : Clock) (target : Option Target) (plan : BuildPlan)
    (filtered : FilteredPlan) :
    Triple (fun q => AnsweredBy run q.calls)
      (p.executeFor run.observed b r clock target plan filtered)
      (fun _ q => AnsweredBy run q.calls) (fun _ q => AnsweredBy run q.calls) := by
  refine .bind (triple_answeredBy_compileAll p run b r clock none _) fun x => ?_
  cases x with
  | inl stopped => exact .pure fun _ hq => hq
  | inr log =>
    refine .bind (triple_answeredBy_of_keeps (keeps_stopIfCancelled b)) fun _ => ?_
    split
    · exact .bind (triple_answeredBy_ofRun run _ _) fun _ => .pure fun _ hq => hq
    · exact .bind (triple_answeredBy_ofRun run _ _) fun _ => .pure fun _ hq => hq
    · exact .pure fun _ hq => hq

/-- **All calls of an operation are answered by its runner.** -/
theorem answeredBy_callsOf (p : Project) (run : Runner ρ) (r : OperationRequest) (clock : Clock)
    (cache : BuildCache) (session : Session ρ) :
    AnsweredBy run (p.callsOf run r clock cache session) := by
  cases hphase : p.phase r cache.content session.files with
  | error e =>
    rw [callsOf_of_error run clock hphase]
    intro x hx
    cases hx
  | ok ph =>
    obtain ⟨-, -, -, answer, q, hexecute, -⟩ := exists_execution run clock hphase
    have hend := triple_answeredBy_executeFor p run ph.backend r clock ph.target ph.plan
      ph.filtered (ph.start cache session.observed) fun x hx => nomatch hx
    rw [(calls_operate_of_execution run clock hphase hexecute).1]
    rw [hexecute] at hend
    cases answer with
    | error e => exact hend
    | ok e => exact hend

/-- **An operation that starts processes has calls of whole lines.** -/
theorem wholeLines_callsOf_runner (p : Project) {run : Runner ρ} (hrun : Launch.StartsProcesses run)
    (r : OperationRequest) (clock : Clock) (cache : BuildCache) (session : Session ρ) :
    ∀ x ∈ p.callsOf run r clock cache session, x.WholeLines := by
  intro x hx result hreply
  obtain ⟨s, hs⟩ := answeredBy_callsOf p run r clock cache session x hx
  obtain ⟨launch, hresult⟩ := hrun _ s result (hs.trans hreply)
  exact Launch.wholeLines_carryOut hresult

end Project

/-! ## Output and its messages -/

/-- Whether a message is about a line of output. -/
def Message.isOutput (m : Message) : Bool := m.source == .stdout || m.source == .stderr

namespace Classifier

variable (c : Classifier)

/-- The messages of texts of whole lines, one behind the other, are those of each of them. -/
theorem streamMessages_join (source : MessageSource) {texts : List String}
    (h : ∀ s ∈ texts, Text.WholeLines s) :
    c.streamMessages source (String.join texts) = texts.flatMap (c.streamMessages source) := by
  rw [streamMessages, Text.lines_join h, List.filterMap_flatMap]
  rfl

theorem source_of_mem_streamMessages {source : MessageSource} {text : String} {m : Message}
    (h : m ∈ c.streamMessages source text) : m.source = source := by
  obtain ⟨line, -, hmessage⟩ := List.mem_filterMap.mp h
  unfold messageOf? at hmessage
  split at hmessage
  · cases hmessage
  · cases hmessage
  · obtain rfl := Option.some.inj hmessage
    rfl

/-- **The messages on the output of a run** are those of its two streams. -/
theorem filter_isOutput_classify (r : ToolResult) :
    (c.classify r).messages.filter (·.isOutput) =
      c.streamMessages .stdout r.stdout ++ c.streamMessages .stderr r.stderr := by
  have hclosing : (c.closing r).filter (·.isOutput) = [] := by
    unfold closing
    cases c.statusLine? r <;> rfl
  rw [messages_classify, List.filter_append, List.filter_append, hclosing, List.append_nil,
    List.filter_eq_self.mpr, List.filter_eq_self.mpr]
  · intro m hm
    simp [Message.isOutput, c.source_of_mem_streamMessages hm]
  · intro m hm
    simp [Message.isOutput, c.source_of_mem_streamMessages hm]

end Classifier

/-- **A call that has answered, and whose output was taken down.** -/
def Call.Heard (b : Backend) (x : Call) : Prop :=
  ∃ result, x.reply = .ok result ∧ x.said b = (b.classifier.classify result).messages

/-- The messages on the output of a call are those of its two streams. -/
theorem Call.Heard.filter_isOutput_said {b : Backend} {x : Call} (h : x.Heard b) :
    (x.said b).filter (·.isOutput) = b.classifier.streamMessages .stdout x.stdout ++
      b.classifier.streamMessages .stderr x.stderr := by
  obtain ⟨result, hreply, hsaid⟩ := h
  have hout : x.stdout = result.stdout := by simp [Call.stdout, hreply]
  have herr : x.stderr = result.stderr := by simp [Call.stderr, hreply]
  rw [hsaid, Classifier.filter_isOutput_classify, hout, herr]

theorem Call.WholeLines.streams {x : Call} (h : x.WholeLines) :
    Text.WholeLines x.stdout ∧ Text.WholeLines x.stderr := by
  unfold Call.stdout Call.stderr
  cases hreply : x.reply with
  | error e => exact ⟨Text.wholeLines_empty, Text.wholeLines_empty⟩
  | ok result => exact h result hreply

/-- **What is taken down of calls of whole lines** is what is found in a result that gathers their
output, in another order: in the result all of standard output stands in front of all of standard
error. -/
theorem perm_output {b : Backend} {calls : List Call} {shown : ToolResult}
    (hheard : ∀ x ∈ calls, x.Heard b) (hlines : ∀ x ∈ calls, x.WholeLines)
    (hgathers : Gathers calls shown) :
    ((calls.flatMap fun x => x.said b).filter (·.isOutput)).Perm
      ((b.classifier.classify shown).messages.filter (·.isOutput)) := by
  have hout : ∀ s ∈ calls.map Call.stdout, Text.WholeLines s := by
    intro s hs
    obtain ⟨x, hx, rfl⟩ := List.mem_map.mp hs
    exact (hlines x hx).streams.1
  have herr : ∀ s ∈ calls.map Call.stderr, Text.WholeLines s := by
    intro s hs
    obtain ⟨x, hx, rfl⟩ := List.mem_map.mp hs
    exact (hlines x hx).streams.2
  have hsaid : (calls.flatMap fun x => x.said b).filter (·.isOutput) =
      calls.flatMap fun x => b.classifier.streamMessages .stdout x.stdout ++
        b.classifier.streamMessages .stderr x.stderr := by
    rw [List.filter_flatMap]
    exact List.flatMap_congr fun x hx => (hheard x hx).filter_isOutput_said
  rw [hsaid, Classifier.filter_isOutput_classify, hgathers.stdout, hgathers.stderr,
    Classifier.streamMessages_join _ _ hout, Classifier.streamMessages_join _ _ herr,
    List.flatMap_map, List.flatMap_map]
  exact (List.flatMap_append_perm calls _ _).symm

/-! ## Operations that end with their compiles -/

namespace Project

variable {ρ : Type} {p : Project} {run : Runner ρ} {b : Backend} {r : OperationRequest}
  {clock : Clock} {cache : BuildCache} {session : Session ρ}

/-- **An operation that ends with its compiles**: it is a compile that has succeeded, or it has
failed because a compile has. -/
def EndsWithCompile (r : OperationRequest) (o : OperationOutcome) : Prop :=
  (r.kind = .compile ∧ o.succeeded = true) ∨
    ∃ subject, o.error = some (.toolFailed Operation.compile.keyword subject)

/-- A compile that has passed is heard. -/
theorem heard_of_passes {x : Call} (h : x.passes b = true) : x.Heard b := by
  obtain ⟨result, hreply, -, hsaid⟩ := Call.exists_reply_of_passes h
  exact ⟨result, hreply, hsaid⟩

/-- In a loop that stops with a compile that was not cancelled all calls are heard. -/
theorem Compiling.heard {log : Option ToolRun} {cancelled c : Bool} {files : List PlannedFile}
    {calls : List Call} {answer : Except BuildError (Execution ⊕ Option ToolRun)}
    (h : p.Compiling b r log cancelled files calls c answer) {e : Execution}
    (hanswer : answer = .ok (.inl e)) (hended : e.wasCancelled = false) :
    ∀ x ∈ calls, x.Heard b := by
  induction h with
  | done => simp at hanswer
  | cancelled => simp at hanswer
  | refused => simp at hanswer
  | notStarted => simp at hanswer
  | @stopped log f files i h result c hpasses =>
    obtain rfl := Sum.inl.inj (Except.ok.inj hanswer)
    have hcancelled : result.wasCancelled = false := by
      cases log <;> exact hended
    intro x hx
    obtain rfl := List.mem_singleton.mp hx
    exact ⟨result, rfl, if_neg (by simp [hcancelled])⟩
  | passed log h hpasses hrest ih =>
    intro x hx
    rcases List.mem_cons.mp hx with rfl | hx
    · exact heard_of_passes hpasses
    · exact ih hanswer x hx

/-- **What an execution of compiles gives**, when nothing comes behind them: all calls are heard
unless one was cancelled, and its run gathers their output. -/
theorem LastRun.of_compile {plan : BuildPlan} {target : Option Target} {cancelled c c' : Bool}
    {files : List PlannedFile} {calls last : List Call}
    {x : Except BuildError (Execution ⊕ Option ToolRun)} {e : Execution}
    (hloop : p.Compiling b r none cancelled files calls c x)
    (h : p.LastRun b r plan target x c last c' (.ok e))
    (hcompile : r.kind = .compile ∨ e.operation = .compile) :
    last = [] ∧ e.said b = [] ∧
      (e.wasCancelled = false ∨ e.compileFailed = false → ∀ y ∈ calls, y.Heard b) ∧
      ∀ one, e.run = some one → Gathers calls one.result := by
  have hgathers : HandsOn ([] ++ calls) x := hloop.handsOn rfl
  rw [List.nil_append] at hgathers
  cases h with
  | stopped e c =>
    obtain ⟨one, hrun, hgathers⟩ := hgathers
    have hfailed := (hloop.exists_of_inl rfl).1
    refine ⟨rfl, by simp [Execution.said, hfailed], fun hended => ?_, fun one' hrun' => ?_⟩
    · rcases hended with hended | hpassed
      · exact hloop.heard rfl hended
      · simp [hfailed] at hpassed
    · obtain rfl := Option.some.inj (hrun.symm.trans hrun')
      exact hgathers
  | compiled log h =>
    refine ⟨rfl, rfl, fun _ y hy => heard_of_passes ((hloop.all_passed rfl).2 y hy), ?_⟩
    rintro one rfl
    exact hgathers
  | ran log h result c subject =>
    -- behind the compiles of a compile nothing is run
    have hkind : r.kind = .compile := hcompile.elim id id
    cases target <;> simp [lastCall, hkind] at h

/-- **The log of the compiles of an operation**, by its calls, what it shows and its messages. -/
structure MergedLog (p : Project) (r : OperationRequest) (b : Backend) (files : List PlannedFile)
    (calls : List Call) (shown : ToolResult) (messages : List Message) : Prop where
  /-- The calls are compiles of the first files, in their order. -/
  compiles : ∃ rows : List (PlannedFile × Call), rows.map (·.2) = calls ∧
    rows.map (·.1) <+: files ∧ ∀ x ∈ rows, p.compileCall b r x.1.file = .ok x.2.invocation
  /-- Standard output of all of them is shown. -/
  stdout : shown.stdout = String.join (calls.map Call.stdout)
  /-- Standard error of all of them is shown. -/
  stderr : shown.stderr = String.join (calls.map Call.stderr)
  /-- The messages on output are those that are found in what is shown. -/
  messages : (messages.filter (·.isOutput)).Perm
    ((b.classifier.classify shown).messages.filter (·.isOutput))

/-- **Behind an execution, an operation that ends with its compiles** was not cancelled, its
execution is one of compiles, and the output that is classified behind it is added to the
messages. -/
theorem messages_operate_of_endsWithCompile {ph : Phase} {q : Progress (ρ × List Call)}
    {e : Execution} (h : p.phase r cache.content session.files = .ok ph)
    (hexecute : (p.executeFor run.observed ph.backend r clock ph.target ph.plan ph.filtered).run
      (ph.start cache session.observed) = (.ok e, q))
    (hended : EndsWithCompile r (p.operate run r clock cache session).outcome) :
    (e.wasCancelled = false ∨ e.compileFailed = false) ∧
      (r.kind = .compile ∨ e.operation = .compile) ∧
      (p.operate run r clock cache session).outcome.messages =
        q.outcome.messages ++ e.said ph.backend := by
  obtain ⟨-, -, -, herror, -, harchive, -⟩ := isExecuting_of_executeFor hexecute
  have hclosed := triple_finishWith_closed (p.archiver r clock) ph.backend e q harchive q rfl
  have hfails := failsOnly_finishFor p ph.backend r clock e q
  have hfinish : (finishWith (p.archiver r clock) ph.backend e :
    OperationStep (ρ × List Call) Unit) = p.finishFor ph.backend r clock e := rfl
  rw [operate_of_execution_ok run clock h hexecute] at hended ⊢
  rw [hfinish] at hclosed
  rcases hrun : (p.finishFor ph.backend r clock e).run q with ⟨err | u, q'⟩ <;>
    rw [hrun] at hclosed hfails hended
  · -- the operation fails, and it does so with the error of a compile
    rcases hended with ⟨-, hsucceeded⟩ | ⟨subject, hsubject⟩
    · cases hsucceeded
    · obtain rfl : err = .toolFailed Operation.compile.keyword subject := Option.some.inj hsubject
      rcases hclosed with ⟨hcancelled, -⟩ | ⟨-, hended, hclosed⟩
      · cases hcancelled
      · refine ⟨Or.inl hended, Or.inr ?_, hclosed.messages⟩
        rcases hfails _ rfl with hcancelled | hfailed
        · cases hcancelled
        · obtain ⟨hkeyword, -⟩ := BuildError.toolFailed.inj hfailed
          cases ho : e.operation with
          | compile => rfl
          | simulate => simp [ho, Operation.keyword] at hkeyword
          | synthesize => simp [ho, Operation.keyword] at hkeyword
  · obtain ⟨hsucceeds, -, hclosed⟩ := hclosed
    refine ⟨Or.inr (compileFailed_of_succeeds hsucceeds), Or.inl ?_, hclosed.messages⟩
    rcases hended with ⟨hkind, -⟩ | ⟨subject, hsubject⟩
    · exact hkind
    · have hnone : q'.outcome.error = some (.toolFailed Operation.compile.keyword subject) :=
        hsubject
      simp [hclosed.error, herror] at hnone

/-- **The log that is shown agrees with the messages.** When an operation ends with its compiles and
shows a result, its calls are compiles of its first files in their order, the result holds the
output of all of them, and what its backend finds in the result is what the messages tell of the
output, file by file. All its calls are to answer with whole lines, as those of a runner that starts
processes do (`wholeLines_callsOf_runner`). -/
theorem merged_log (p : Project) (run : Runner ρ) (r : OperationRequest) (clock : Clock)
    (cache : BuildCache) (session : Session ρ)
    (hlines : ∀ x ∈ p.callsOf run r clock cache session, x.WholeLines) {shown : ToolResult}
    (hshown : (p.operate run r clock cache session).outcome.toolResult = some shown)
    (hended : EndsWithCompile r (p.operate run r clock cache session).outcome) :
    ∃ ph, p.phase r cache.content session.files = .ok ph ∧
      p.MergedLog r ph.backend ph.filtered.toBuild (p.callsOf run r clock cache session) shown
        (p.operate run r clock cache session).outcome.messages := by
  cases hphase : p.phase r cache.content session.files with
  | error e =>
    obtain ⟨name, ho⟩ := operate_of_error run clock hphase
    rw [ho] at hshown
    cases hshown
  | ok ph =>
    obtain ⟨c, x, last, answer, q, hexecute, hcalls, hloop, hlast, hledger, -⟩ :=
      exists_execution run clock hphase
    have hall := (calls_operate_of_execution run clock hphase hexecute).1
    cases answer with
    | error err =>
      have hnone := (outcome_operate_of_error run clock hphase hexecute).2
      simp [hshown] at hnone
    | ok e =>
      obtain ⟨hwell, hcompile, hmessages⟩ :=
        messages_operate_of_endsWithCompile hphase hexecute hended
      obtain ⟨rfl, hsaid, hheard, hgathers⟩ := hlast.of_compile hloop hcompile
      rw [List.append_nil] at hcalls
      rw [hall, hcalls] at hlines ⊢
      rw [toolResult_operate_of_ok run clock hphase hexecute] at hshown
      obtain ⟨one, hrun, rfl⟩ := Option.map_eq_some_iff.mp hshown
      obtain ⟨passed, stop, -, hrows, hfiles, hmade, -⟩ := hloop.exists_zip_eq
      refine ⟨ph, rfl, ⟨_, hrows, hfiles, hmade⟩, (hgathers one hrun).stdout,
        (hgathers one hrun).stderr, ?_⟩
      rw [hmessages, hsaid, List.append_nil, messages_of_ledger hloop hledger]
      exact perm_output (hheard hwell) hlines (hgathers one hrun)

/-- The project of two files, with a backend that ignores one line and warns of every other. -/
def noisyPair : Project :=
  { pair with registry :=
      BackendRegistry.register {} { steadyBackend "sim" with classifier := allButNoise } }

/-- A runner all of whose runs write to both streams and exit with the codes of its state. -/
def noisyRunner : Runner (List Int) := fun _ s =>
  (.ok ⟨.exited (s.runner.head?.getD 0), "noise\nslow\n", "late\n", ⟨0, 0⟩⟩,
    { s with runner := s.runner.tail })

/-- A compile of the two files, of which the second one fails. -/
def runNoisy : Progress (List Int) :=
  noisyPair.operate noisyRunner ⟨.compile, none, none, {}⟩ ⟨⟨"now"⟩, "now"⟩ .inMemory
    (pairSession [0, 1])

/-- Each file has the messages on its two streams taken down, and the log has all of standard
output in front of standard error. -/
theorem merged_log_noisy : ∃ (shown : ToolResult) (ph : Phase),
    runNoisy.outcome.toolResult = some shown ∧
      shown.stdout = "noise\nslow\nnoise\nslow\n" ∧
      (runNoisy.outcome.messages.filter (·.isOutput)).map (·.line) =
        ["slow", "late", "slow", "late"] ∧
      noisyPair.MergedLog ⟨.compile, none, none, {}⟩ ph.backend ph.filtered.toBuild
        (noisyPair.callsOf noisyRunner ⟨.compile, none, none, {}⟩ ⟨⟨"now"⟩, "now"⟩ .inMemory
          (pairSession [0, 1])) shown runNoisy.outcome.messages := by
  have hlines : ∀ x ∈ noisyPair.callsOf noisyRunner ⟨.compile, none, none, {}⟩ ⟨⟨"now"⟩, "now"⟩
      .inMemory (pairSession [0, 1]), x.WholeLines := by
    intro x hx result hreply
    obtain ⟨s, hs⟩ := answeredBy_callsOf noisyPair noisyRunner _ _ _ _ x hx
    obtain rfl := Except.ok.inj (hs.trans hreply)
    exact ⟨show Text.WholeLines "noise\nslow\n" by decide,
      show Text.WholeLines "late\n" by decide⟩
  have hended : EndsWithCompile ⟨.compile, none, none, {}⟩ runNoisy.outcome :=
    Or.inr ⟨"/p/b.v", by decide +kernel⟩
  have hstdout : runNoisy.outcome.toolResult.map (·.stdout) =
      some "noise\nslow\nnoise\nslow\n" := by
    decide +kernel
  obtain ⟨shown, hshown, hout⟩ := Option.map_eq_some_iff.mp hstdout
  obtain ⟨ph, -, hlog⟩ := merged_log noisyPair noisyRunner _ _ _ _ hlines hshown hended
  exact ⟨shown, ph, hshown, hout, by decide +kernel, hlog⟩

end Project

end RtlFlow
