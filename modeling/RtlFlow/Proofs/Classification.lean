import RtlFlow.Proofs.Computation
import RtlFlow.Tool.CommandBackend

/-! # Classified output

The lines that a rule covers are reported in their order, those of standard output in front of those
of standard error, and each has the severity of the first rule that covers it. A run that did not
end well has one message more, and the gravest message is the verdict (`Classified`). So the verdict
does not depend on the order of the lines or on the streams in which they stand, and rules that are
put behind others change nothing for a line that is covered already. -/

namespace RtlFlow

/-! ## Rules -/

variable {rules more : List SeverityRule} {line : String} {s s' : Severity}

/-- **Rules give a severity to a line** when the first of them that covers the line has it. -/
def SeverityRule.Gives (rules : List SeverityRule) (line : String) (s : Severity) : Prop :=
  ∃ before r after, rules = before ++ r :: after ∧ (∀ q ∈ before, q.covers line = false) ∧
    r.covers line = true ∧ r.severity = s

open SeverityRule (Gives)

/-- **The severity of a line** is the one that the rules give to it. -/
theorem Classifier.classifyLine_eq_some_iff {c : Classifier} :
    c.classifyLine line = some s ↔ Gives c.rules line s := by
  rw [classifyLine, Option.map_eq_some_iff]
  constructor
  · rintro ⟨r, hfind, hs⟩
    obtain ⟨hr, before, after, hrules, hbefore⟩ := List.find?_eq_some_iff_append.mp hfind
    exact ⟨before, r, after, hrules, fun q hq => by simpa using hbefore q hq, hr, hs⟩
  · rintro ⟨before, r, after, hrules, hbefore, hr, hs⟩
    refine ⟨r, List.find?_eq_some_iff_append.mpr ⟨hr, before, after, hrules, ?_⟩, hs⟩
    intro q hq
    simpa using hbefore q hq

/-- Rules give one severity to a line. -/
theorem SeverityRule.Gives.unique (h : Gives rules line s) (h' : Gives rules line s') : s = s' := by
  have hs := Classifier.classifyLine_eq_some_iff (c := ⟨rules, false⟩).mpr h
  have hs' := Classifier.classifyLine_eq_some_iff (c := ⟨rules, false⟩).mpr h'
  exact Option.some.inj (hs.symm.trans hs')

/-- **Rules that are put behind others** change no severity. -/
theorem SeverityRule.Gives.append (h : Gives rules line s) (more : List SeverityRule) :
    Gives (rules ++ more) line s := by
  obtain ⟨before, r, after, rfl, hbefore, hr, hs⟩ := h
  exact ⟨before, r, after ++ more, by simp, hbefore, hr, hs⟩

/-! ## Messages -/

/-- **The messages of lines, in order**: of each line to which the rules give a severity other than
`ignore` there is one, and of the other lines there is none. -/
inductive Reports (rules : List SeverityRule) (source : MessageSource) :
    List String → List Message → Prop
  /-- There is no line. -/
  | nil : Reports rules source [] []
  /-- The line is reported. -/
  | report {line : String} {lines : List String} {s : Severity} {messages : List Message}
      (hs : Gives rules line s) (hne : s ≠ .ignore) (h : Reports rules source lines messages) :
      Reports rules source (line :: lines) (⟨s, source, line⟩ :: messages)
  /-- No rule covers the line, or the first one that does has it ignored. -/
  | pass {line : String} {lines : List String} {messages : List Message}
      (hnone : ∀ s, Gives rules line s → s = .ignore) (h : Reports rules source lines messages) :
      Reports rules source (line :: lines) messages

/-- There is one list of messages. -/
theorem Reports.unique {source : MessageSource} {lines : List String} {x y : List Message}
    (hx : Reports rules source lines x) (hy : Reports rules source lines y) : x = y := by
  induction hx generalizing y with
  | nil =>
    cases hy
    rfl
  | report hs hne _ ih =>
    cases hy with
    | report hs' _ hy => rw [hs.unique hs', ih hy]
    | pass hnone _ => exact absurd (hnone _ hs) hne
  | pass hnone _ ih =>
    cases hy with
    | report hs' hne _ => exact absurd (hnone _ hs') hne
    | pass _ hy => exact ih hy

/-- **The message of how a run ended**, which there is unless the run exited with code zero, or with
another code that does not count. -/
inductive Closes (ignoreExitCode : Bool) (r : ToolResult) : List Message → Prop
  /-- The run was stopped when its time was over. -/
  | timedOut (h : r.status = .timedOut) : Closes ignoreExitCode r
      [⟨.fatal, .status, "process timed out after " ++ r.elapsed.inSeconds.fixed 1 ++ "s"⟩]
  /-- The run was cancelled. -/
  | cancelled (h : r.status = .cancelled) :
      Closes ignoreExitCode r [⟨.fatal, .status, "process was cancelled"⟩]
  /-- The run exited with a code that counts as a failure. -/
  | failed {code : Int} (h : r.status = .exited code) (hcode : code ≠ 0)
      (hcounts : ignoreExitCode = false) : Closes ignoreExitCode r
        [⟨.fatal, .status, "process exited with code " ++ toString code⟩]
  /-- The run ended well. -/
  | well {code : Int} (h : r.status = .exited code) (hwell : code = 0 ∨ ignoreExitCode = true) :
      Closes ignoreExitCode r []

/-- A run has one end. -/
theorem Closes.unique {ignoreExitCode : Bool} {r : ToolResult} {x y : List Message}
    (hx : Closes ignoreExitCode r x) (hy : Closes ignoreExitCode r y) : x = y := by
  cases hx <;> cases hy <;> simp_all

/-- **The classification of a run.** -/
structure Classified (c : Classifier) (r : ToolResult) (x : Classification) : Prop where
  /-- The messages are those of standard output, of standard error and of the end of the run. -/
  messages : ∃ out err last, Reports c.rules .stdout (Text.lines r.stdout) out ∧
    Reports c.rules .stderr (Text.lines r.stderr) err ∧ Closes c.ignoreExitCode r last ∧
    x.messages = out ++ err ++ last
  /-- The run has failed when a message is an error. -/
  failed : x.verdict = .failed ↔
    ∃ m ∈ x.messages, m.severity = .error ∨ m.severity = .fatal
  /-- It has passed with warnings when there is a warning and no error. -/
  warned : x.verdict = .passedWithWarnings ↔
    (¬ ∃ m ∈ x.messages, m.severity = .error ∨ m.severity = .fatal) ∧
      ∃ m ∈ x.messages, m.severity = .warning

/-- **A run has one classification.** -/
theorem Classified.unique {c : Classifier} {r : ToolResult} {x y : Classification}
    (hx : Classified c r x) (hy : Classified c r y) : x = y := by
  obtain ⟨out, err, last, hout, herr, hlast, hmessages⟩ := hx.messages
  obtain ⟨out', err', last', hout', herr', hlast', hmessages'⟩ := hy.messages
  obtain rfl := hout.unique hout'
  obtain rfl := herr.unique herr'
  obtain rfl := hlast.unique hlast'
  have hsame : x.messages = y.messages := hmessages.trans hmessages'.symm
  -- one verdict is left when it is neither of the two that the messages tell
  have hfailed : x.verdict = .failed ↔ y.verdict = .failed := by
    rw [hx.failed, hy.failed, hsame]
  have hwarned : x.verdict = .passedWithWarnings ↔ y.verdict = .passedWithWarnings := by
    rw [hx.warned, hy.warned, hsame]
  obtain ⟨v, messages⟩ := x
  obtain ⟨v', messages'⟩ := y
  obtain rfl : messages = messages' := hsame
  cases v <;> cases v' <;> simp_all

/-! ## The classifier -/

namespace Classifier

variable (c : Classifier)

/-- The severity with which a line is reported. -/
def reported? (line : String) : Option Severity :=
  (c.classifyLine line).filter fun s => s != .ignore

theorem reported?_eq_some_iff {c : Classifier} :
    c.reported? line = some s ↔ Gives c.rules line s ∧ s ≠ .ignore := by
  rw [reported?, Option.filter_eq_some_iff, classifyLine_eq_some_iff, bne_iff_ne]

/-- The message of a line has the severity with which the line is reported. -/
theorem messageOf?_eq (source : MessageSource) (line : String) :
    c.messageOf? source line = (c.reported? line).map fun s => ⟨s, source, line⟩ := by
  rw [messageOf?, reported?]
  cases c.classifyLine line with
  | none => rfl
  | some s => cases s <;> rfl

/-- **The messages of a stream** are those of its lines. -/
theorem reports_filterMap (source : MessageSource) (lines : List String) :
    Reports c.rules source lines (lines.filterMap (c.messageOf? source)) := by
  induction lines with
  | nil => exact .nil
  | cons line lines ih =>
    rw [List.filterMap_cons, messageOf?_eq]
    cases hline : c.reported? line with
    | none =>
      refine .pass (fun s hs => ?_) ih
      by_contra hne
      have hsome := reported?_eq_some_iff.mpr ⟨hs, hne⟩
      rw [hline] at hsome
      cases hsome
    | some s =>
      obtain ⟨hs, hne⟩ := reported?_eq_some_iff.mp hline
      exact .report hs hne ih

/-- The messages of how a run ended. -/
def closing (r : ToolResult) : List Message :=
  ((c.statusLine? r).map fun line => ⟨.fatal, .status, line⟩).toList

theorem closes_closing (r : ToolResult) : Closes c.ignoreExitCode r (c.closing r) := by
  rw [closing, statusLine?]
  cases hstatus : r.status with
  | timedOut => exact .timedOut hstatus
  | cancelled => exact .cancelled hstatus
  | exited code =>
    dsimp only
    split
    · rename_i hcounts
      exact .failed hstatus hcounts.1 (by simpa using hcounts.2)
    · rename_i hwell
      refine .well hstatus ?_
      by_contra hnot
      push Not at hnot
      exact hwell ⟨hnot.1, hnot.2⟩

theorem messages_classify (r : ToolResult) : (c.classify r).messages =
    c.streamMessages .stdout r.stdout ++ c.streamMessages .stderr r.stderr ++ c.closing r := rfl

end Classifier

theorem Severity.isFailure_iff : s.isFailure = true ↔ s = .error ∨ s = .fatal := by
  rw [isFailure, Bool.or_eq_true, beq_iff_eq, beq_iff_eq]

section

variable {messages messages' : List Message}

theorem Verdict.ofMessages_eq_failed_iff :
    ofMessages messages = .failed ↔
      ∃ m ∈ messages, m.severity = .error ∨ m.severity = .fatal := by
  have hany : messages.any (·.severity.isFailure) = true ↔
      ∃ m ∈ messages, m.severity = .error ∨ m.severity = .fatal := by
    simp only [List.any_eq_true, Severity.isFailure_iff]
  rw [ofMessages, ← hany]
  split_ifs with hfailed <;> simp [hfailed]

theorem Verdict.ofMessages_eq_passedWithWarnings_iff :
    ofMessages messages = .passedWithWarnings ↔
      (¬ ∃ m ∈ messages, m.severity = .error ∨ m.severity = .fatal) ∧
        ∃ m ∈ messages, m.severity = .warning := by
  rw [← ofMessages_eq_failed_iff, ofMessages]
  split_ifs with hfailed hwarned
  · simp
  · simpa using hwarned
  · simpa using hwarned

/-- **The verdict depends on the severities alone**, in any order. -/
theorem Verdict.ofMessages_eq_of_perm
    (h : (messages.map (·.severity)).Perm (messages'.map (·.severity))) :
    ofMessages messages = ofMessages messages' := by
  have hany : ∀ p : Severity → Bool,
      messages.any (fun m => p m.severity) = messages'.any fun m => p m.severity := by
    intro p
    have hmap : ∀ l : List Message, l.any (fun m => p m.severity) = (l.map (·.severity)).any p :=
      fun l => by rw [List.any_map]; rfl
    rw [hmap, hmap, h.any_eq]
  rw [ofMessages, ofMessages, hany Severity.isFailure, hany (· == .warning)]

end

namespace Classifier

variable (c : Classifier)

/-- **A run is classified.** -/
theorem classified_classify (r : ToolResult) : Classified c r (c.classify r) where
  messages := ⟨_, _, _, c.reports_filterMap .stdout _, c.reports_filterMap .stderr _,
    c.closes_closing r, c.messages_classify r⟩
  failed := Verdict.ofMessages_eq_failed_iff
  warned := Verdict.ofMessages_eq_passedWithWarnings_iff

/-- The severities of the messages of a stream do not depend on which stream it is. -/
theorem map_severity_streamMessages (source : MessageSource) (text : String) :
    (c.streamMessages source text).map (·.severity) = (Text.lines text).filterMap c.reported? := by
  rw [streamMessages, List.map_filterMap]
  congr 1
  funext line
  rw [messageOf?_eq, Option.map_map]
  cases c.reported? line <;> rfl

/-- How a run ended does not depend on what it wrote. -/
theorem map_severity_closing {r r' : ToolResult} (h : r.status = r'.status) :
    (c.closing r).map (·.severity) = (c.closing r').map (·.severity) := by
  rw [closing, closing, statusLine?, statusLine?, h]
  cases r'.status with
  | timedOut => rfl
  | cancelled => rfl
  | exited code => rfl

/-- **The verdict depends on which lines were written**, not on their order and their streams. -/
theorem verdict_eq_of_perm {r r' : ToolResult} (hstatus : r.status = r'.status)
    (hlines : (Text.lines r.stdout ++ Text.lines r.stderr).Perm
      (Text.lines r'.stdout ++ Text.lines r'.stderr)) :
    (c.classify r).verdict = (c.classify r').verdict := by
  have hseverities : ∀ r : ToolResult, (c.classify r).messages.map (·.severity) =
      (Text.lines r.stdout ++ Text.lines r.stderr).filterMap c.reported? ++
        (c.closing r).map (·.severity) := by
    intro r
    rw [messages_classify, List.map_append, List.map_append, map_severity_streamMessages,
      map_severity_streamMessages, List.filterMap_append]
  -- the messages differ in their order, in their streams and in the text of the last one
  show Verdict.ofMessages (c.classify r).messages = Verdict.ofMessages (c.classify r').messages
  refine Verdict.ofMessages_eq_of_perm ?_
  rw [hseverities, hseverities, c.map_severity_closing hstatus]
  exact (hlines.filterMap _).append_right _

/-- **A run that was stopped has failed**, whatever the rules are. -/
theorem verdict_of_stopped {r : ToolResult}
    (h : r.status = .timedOut ∨ r.status = .cancelled) : (c.classify r).verdict = .failed := by
  have hclassified := c.classified_classify r
  obtain ⟨out, err, last, -, -, hlast, hmessages⟩ := hclassified.messages
  rw [hclassified.failed, hmessages]
  cases hlast with
  | timedOut _ => exact ⟨_, List.mem_append_right _ (List.mem_singleton_self _), Or.inr rfl⟩
  | cancelled _ => exact ⟨_, List.mem_append_right _ (List.mem_singleton_self _), Or.inr rfl⟩
  | failed hexited => simp [hexited] at h
  | well hexited => simp [hexited] at h

end Classifier

/-! ## The rules of a backend -/

/-- **Rules are compiled from rules as they are written**, one from each and in their order. -/
def SeverityRule.Compiled (written : List (String × Severity)) (rules : List SeverityRule) : Prop :=
  List.Forall₂ (fun w r => SeverityRule.ofPattern w.1 w.2 = .ok r) written rules

/-- **A configured backend tries its own rules first**, then those of all backends and then the
default ones. -/
theorem Backend.exists_classifier_ofSettings (t : FileTree) (searchPath name : String)
    (settings : BackendSettings) (shared : List SeverityRule) (c : Classifier) :
    (∃ b, Backend.ofSettings t searchPath name settings shared = .ok b ∧ b.classifier = c) ↔
      CommandBackend.fault? settings = none ∧ ∃ own defaults,
        SeverityRule.Compiled (settings.rules.map fun w => (w.pattern, w.severity)) own ∧
        SeverityRule.Compiled defaultPatterns defaults ∧
        c = ⟨own ++ shared ++ defaults, settings.ignoreExitCode⟩ := by
  have hown : ∀ own, CommandBackend.rulesOf settings.rules = .ok own ↔
      SeverityRule.Compiled (settings.rules.map fun w => (w.pattern, w.severity)) own :=
    fun own => mapM_eq_ok_iff
  have hdefaults : ∀ defaults, defaultRules = .ok defaults ↔
      SeverityRule.Compiled defaultPatterns defaults := fun defaults => mapM_eq_ok_iff
  simp only [← hown, ← hdefaults]
  rw [Backend.ofSettings]
  cases CommandBackend.fault? settings with
  | some message =>
    constructor
    · rintro ⟨b, hb, -⟩
      cases hb
    · rintro ⟨hfault, -⟩
      cases hfault
  | none =>
    simp only [bind_eq_ok_iff, true_and]
    constructor
    · rintro ⟨b, ⟨own, hown, defaults, hdefaults, hb⟩, rfl⟩
      obtain rfl := Except.ok.inj hb
      exact ⟨own, defaults, hown, hdefaults, rfl⟩
    · rintro ⟨own, defaults, hown, hdefaults, rfl⟩
      exact ⟨_, ⟨own, hown, defaults, hdefaults, rfl⟩, rfl⟩

/-! ## The law of classification -/

/-- **The law of classification.** A run has one classification, which is told by its lines, its
rules and its end. A run that was stopped has failed under all rules. The verdict is the same when
the same lines stand in another order or on the other stream, and the severity of a line that is
covered is the same when rules are added behind. The rules of a configured backend are its own ones,
those of all backends and the default ones, in this order. -/
theorem Classifier.classify_spec :
    (∀ (c : Classifier) (r : ToolResult) (x : Classification),
      Classified c r x ↔ x = c.classify r) ∧
    (∀ (c : Classifier) (r : ToolResult), r.status = .timedOut ∨ r.status = .cancelled →
      (c.classify r).verdict = .failed) ∧
    (∀ (c : Classifier) (r r' : ToolResult), r.status = r'.status →
      (Text.lines r.stdout ++ Text.lines r.stderr).Perm
        (Text.lines r'.stdout ++ Text.lines r'.stderr) →
      (c.classify r).verdict = (c.classify r').verdict) ∧
    (∀ (c : Classifier) (more : List SeverityRule) (line : String) (s : Severity),
      c.classifyLine line = some s →
        ({ c with rules := c.rules ++ more } : Classifier).classifyLine line = some s) ∧
    ∀ (t : FileTree) (searchPath name : String) (settings : BackendSettings)
      (shared : List SeverityRule) (c : Classifier),
      (∃ b, Backend.ofSettings t searchPath name settings shared = .ok b ∧ b.classifier = c) ↔
        CommandBackend.fault? settings = none ∧ ∃ own defaults,
          SeverityRule.Compiled (settings.rules.map fun w => (w.pattern, w.severity)) own ∧
          SeverityRule.Compiled defaultPatterns defaults ∧
          c = ⟨own ++ shared ++ defaults, settings.ignoreExitCode⟩ := by
  refine ⟨fun c r x => ⟨fun h => h.unique (c.classified_classify r), ?_⟩,
    fun c r => c.verdict_of_stopped, fun c r r' => c.verdict_eq_of_perm, ?_,
    Backend.exists_classifier_ofSettings⟩
  · rintro rfl
    exact c.classified_classify r
  · intro c more line s h
    rw [classifyLine_eq_some_iff] at h ⊢
    exact h.append more

/-- A classifier that ignores one line and warns of every other. -/
def allButNoise : Classifier where
  rules := [⟨fun line => line == "noise", .ignore⟩, ⟨fun _ => true, .warning⟩]
  ignoreExitCode := false

/-- A run that ended with two lines on one stream. -/
def noisyRun (status : ToolStatus) (stdout stderr : String) : ToolResult :=
  ⟨status, stdout, stderr, ⟨0, 0⟩⟩

/-- The line that is not ignored is reported, on either stream; without an end of its own the run
has failed all the same, and a rule that would have the line ignored comes too late. -/
theorem Classifier.classify_spec_allButNoise :
    Classified allButNoise (noisyRun (.exited 0) "noise\nslow\n" "")
        ⟨.passedWithWarnings, [⟨.warning, .stdout, "slow"⟩]⟩ ∧
      (allButNoise.classify (noisyRun .timedOut "" "")).verdict = .failed ∧
      (allButNoise.classify (noisyRun (.exited 0) "noise\nslow\n" "")).verdict =
        (allButNoise.classify (noisyRun (.exited 0) "slow" "noise\n")).verdict ∧
      ({ allButNoise with rules := allButNoise.rules ++ [⟨fun _ => true, .ignore⟩] } :
        Classifier).classifyLine "slow" = some .warning := by
  obtain ⟨hclassified, hstopped, hperm, happend, -⟩ := classify_spec
  refine ⟨(hclassified _ _ _).mpr (by decide +kernel), hstopped _ _ (Or.inl rfl),
    hperm _ _ _ rfl ?_, happend _ _ _ _ (by decide)⟩
  have hlines : Text.lines "noise\nslow\n" ++ Text.lines "" = ["noise", "slow"] := by decide +kernel
  have hlines' : Text.lines "slow" ++ Text.lines "noise\n" = ["slow", "noise"] := by decide +kernel
  show (Text.lines "noise\nslow\n" ++ Text.lines "").Perm
    (Text.lines "slow" ++ Text.lines "noise\n")
  rw [hlines, hlines']
  exact List.Perm.swap _ _ _

end RtlFlow
