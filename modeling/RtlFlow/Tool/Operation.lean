import RtlFlow.Duration

/-! # Operations

The three things that a tool can be asked to do, and the notation for the simulated time that is
passed to a simulator. -/

namespace RtlFlow

/-- **What a tool can be asked to do.** -/
inductive Operation where
  /-- Compile one file into its library. -/
  | compile
  /-- Simulate a design unit. -/
  | simulate
  /-- Synthesize a design unit. -/
  | synthesize
  deriving DecidableEq, Repr, Inhabited

namespace Operation

/-- The name of an operation. -/
def keyword : Operation → String
  | .compile => "compile"
  | .simulate => "simulate"
  | .synthesize => "synthesize"

/-- All operations, in ascending order. -/
def all : List Operation := [.compile, .simulate, .synthesize]

/-- The operation with a keyword. -/
def ofKeyword? (s : String) : Option Operation := all.find? fun o => o.keyword == s

end Operation

/-- The units of simulated time with their length in nanoseconds, longest first. -/
def timeUnits : List (String × Nat) :=
  [("s", 1000000000), ("ms", 1000000), ("us", 1000), ("ns", 1)]

/-- **Simulated time** as a whole number of the longest unit that divides it. -/
def Duration.simTime (d : Duration) : String :=
  let nanos := d.totalNanos
  if nanos = 0 then "0ns"
  else
    match timeUnits.find? fun (_, length) => nanos % length == 0 with
    | some (unit, length) => toString (nanos / length) ++ unit
    | none => toString nanos ++ "ns"

end RtlFlow
