import RtlFlow.Text.Unicode.CaseMap

/-! # Severities -/

namespace RtlFlow

/-- **How grave an output line is.** The constructors stand in ascending order. -/
inductive Severity where
  /-- Matched in order not to be reported. -/
  | ignore
  /-- For information. -/
  | info
  /-- A warning. -/
  | warning
  /-- An error. -/
  | error
  /-- An error that ends the run. -/
  | fatal
  deriving DecidableEq, Repr, Inhabited

namespace Severity

/-- The name of a severity. -/
def keyword : Severity → String
  | .ignore => "ignore"
  | .info => "info"
  | .warning => "warning"
  | .error => "error"
  | .fatal => "fatal"

/-- All severities, in ascending order. -/
def all : List Severity := [.ignore, .info, .warning, .error, .fatal]

/-- The severity with a keyword. -/
def ofKeyword? (s : String) : Option Severity := all.find? fun v => v.keyword == s

/-- The rank of a severity. -/
def rank : Severity → Nat
  | .ignore => 0
  | .info => 1
  | .warning => 2
  | .error => 3
  | .fatal => 4

/-- Whether a severity is at least another. -/
def atLeast (s t : Severity) : Bool := t.rank ≤ s.rank

/-- Whether a line of this severity makes a run fail. -/
def isFailure (s : Severity) : Bool := s == .error || s == .fatal

/-- **The severity named by a text**, in any case of its ASCII letters. The error is the wording
for a text that names none. -/
def parse (s : String) : Except String Severity :=
  let s := Text.Unicode.asciiLowercase s
  match ofKeyword? s with
  | some v => .ok v
  | none => .error ("unknown severity '" ++ s ++ "'")

end Severity

end RtlFlow
