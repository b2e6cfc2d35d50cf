/-! # Log levels -/

namespace RtlFlow

/-- **How much is logged.** The constructors stand from least to most. -/
inductive LogLevel where
  /-- Errors only. -/
  | error
  /-- Warnings too. -/
  | warn
  /-- Information too. -/
  | info
  /-- What helps to find faults too. -/
  | debug
  /-- Everything. -/
  | trace
  deriving DecidableEq, Repr, Inhabited

namespace LogLevel

/-- **The level asked for** by a number of requests for more and one for silence, which wins. -/
def ofFlags (verbose : Nat) (quiet : Bool) : LogLevel :=
  if quiet then .error
  else
    match verbose with
    | 0 => .warn
    | 1 => .info
    | 2 => .debug
    | _ => .trace

/-- The name of a level. -/
def keyword : LogLevel → String
  | .error => "ERROR"
  | .warn => "WARN"
  | .info => "INFO"
  | .debug => "DEBUG"
  | .trace => "TRACE"

end LogLevel

end RtlFlow
