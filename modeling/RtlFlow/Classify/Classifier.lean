import RtlFlow.Classify.Severity
import RtlFlow.Pattern.Reading
import RtlFlow.Pattern.Matching
import RtlFlow.Text.Lines
import RtlFlow.Tool.Invocation
import RtlFlow.Error

/-! # Classification of tool output

Exit codes of tools tell little, so their output decides. Every line of output gets the severity
of the first rule that covers it; a line that no rule covers, or that is covered in order to be
ignored, is not reported. A run that was stopped, or that exited with a code other than zero where
that counts, adds a fatal message of its own. The gravest message decides whether the run
passed. -/

namespace RtlFlow

/-- **A severity rule**: which lines it covers and the severity that it gives them. -/
structure SeverityRule where
  /-- Whether the rule covers a line. -/
  covers : String → Bool
  /-- The severity of the lines that it covers. -/
  severity : Severity

namespace SeverityRule

/-- **The rule of a pattern**: it covers the lines in which the pattern occurs. -/
def ofPattern (pattern : String) (severity : Severity) : Except ConfigError SeverityRule :=
  match Pattern.parse pattern with
  | .ok p => .ok ⟨p.occursIn, severity⟩
  | .error e => .error (.invalidRule pattern e.message)

/-- The rules of a list of patterns; the first malformed pattern is the error. -/
def ofPatterns (rules : List (String × Severity)) : Except ConfigError (List SeverityRule) :=
  rules.mapM fun (pattern, severity) => ofPattern pattern severity

end SeverityRule

/-- The rules that hold when no other rule covers a line. -/
def defaultPatterns : List (String × Severity) :=
  [("(?i)^[#\\s]*\\*\\*\\s*fatal\\b", .fatal),
   ("(?i)^[#\\s]*\\*\\*\\s*error\\b", .error),
   ("(?i)^\\s*(error|fatal)\\s*:", .error),
   ("(?i):\\s*error\\s*:", .error),
   ("(?i)^[#\\s]*\\*\\*\\s*warning\\b", .warning),
   ("(?i)^\\s*warning\\s*:", .warning)]

/-- The default rules. -/
def defaultRules : Except ConfigError (List SeverityRule) := SeverityRule.ofPatterns defaultPatterns

/-- **Where a message comes from.** -/
inductive MessageSource where
  /-- Standard output. -/
  | stdout
  /-- Standard error. -/
  | stderr
  /-- The way in which the run ended. -/
  | status
  deriving DecidableEq, Repr, Inhabited

/-- **A classified line.** -/
structure Message where
  /-- How grave it is. -/
  severity : Severity
  /-- Where it comes from. -/
  source : MessageSource
  /-- The line. -/
  line : String
  deriving DecidableEq, Repr, Inhabited

/-- **The decision on a run.** -/
inductive Verdict where
  /-- Nothing to complain of. -/
  | passed
  /-- There are warnings. -/
  | passedWithWarnings
  /-- There are errors. -/
  | failed
  deriving DecidableEq, Repr, Inhabited

/-- Whether a run with this verdict counts as a success. -/
def Verdict.isSuccess (v : Verdict) : Bool := v != .failed

/-- The verdict on a list of messages. -/
def Verdict.ofMessages (messages : List Message) : Verdict :=
  if messages.any (·.severity.isFailure) then .failed
  else if messages.any (·.severity == .warning) then .passedWithWarnings
  else .passed

/-- **A classified run.** -/
structure Classification where
  /-- The decision. -/
  verdict : Verdict
  /-- The messages, in order. -/
  messages : List Message
  deriving DecidableEq, Repr, Inhabited

/-- The messages that are at least as grave as a severity. -/
def Classification.atLeast (c : Classification) (s : Severity) : List Message :=
  c.messages.filter (·.severity.atLeast s)

/-- **Rules in their order**, and whether exit codes count. -/
structure Classifier where
  /-- The rules. -/
  rules : List SeverityRule
  /-- An exit code other than zero is no failure. -/
  ignoreExitCode : Bool := false
  deriving Inhabited

namespace Classifier

/-- **The severity of a line**: that of the first rule that covers it. -/
def classifyLine (c : Classifier) (line : String) : Option Severity :=
  (c.rules.find? fun r => r.covers line).map (·.severity)

/-- The message of a line, if it is to be reported. -/
def messageOf? (c : Classifier) (source : MessageSource) (line : String) : Option Message :=
  match c.classifyLine line with
  | none | some .ignore => none
  | some severity => some ⟨severity, source, line⟩

/-- The messages of the lines of a stream. -/
def streamMessages (c : Classifier) (source : MessageSource) (text : String) : List Message :=
  (Text.lines text).filterMap (c.messageOf? source)

/-- The line that tells of a run that did not end well. -/
def statusLine? (c : Classifier) (r : ToolResult) : Option String :=
  match r.status with
  | .timedOut => some ("process timed out after " ++ r.elapsed.inSeconds.fixed 1 ++ "s")
  | .cancelled => some "process was cancelled"
  | .exited code =>
    if code ≠ 0 ∧ ¬c.ignoreExitCode then some ("process exited with code " ++ toString code)
    else none

/-- **Classifies a run.** -/
def classify (c : Classifier) (r : ToolResult) : Classification :=
  let messages :=
    c.streamMessages .stdout r.stdout ++ c.streamMessages .stderr r.stderr ++
      ((c.statusLine? r).map fun line => ⟨.fatal, .status, line⟩).toList
  ⟨.ofMessages messages, messages⟩

end Classifier

end RtlFlow
