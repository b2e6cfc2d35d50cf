import RtlFlow.Number.Shortest

/-! # Durations

A duration is a number of seconds with a number of nanoseconds below a second. As a floating point
number of seconds it is the sum of its two parts, each rounded to the format. -/

namespace RtlFlow

open RtlFlow.Number

/-- **A span of time.** -/
structure Duration where
  /-- The whole seconds. -/
  seconds : Nat
  /-- The nanoseconds on top, fewer than `10^9`. -/
  nanos : Nat
  deriving DecidableEq, Repr, Inhabited

namespace Duration

/-- The nanoseconds of a second. -/
def nanosPerSecond : Nat := 1000000000

/-- No time. -/
def zero : Duration := ⟨0, 0⟩

/-- A number of seconds. -/
def ofSeconds (n : Nat) : Duration := ⟨n, 0⟩

/-- The whole duration in nanoseconds. -/
def totalNanos (d : Duration) : Nat := d.seconds * nanosPerSecond + d.nanos

/-- The duration of a number of nanoseconds. -/
def ofNanos (n : Nat) : Duration := ⟨n / nanosPerSecond, n % nanosPerSecond⟩

/-- The sum of two durations. -/
def add (d e : Duration) : Duration := ofNanos (d.totalNanos + e.totalNanos)

instance : Add Duration := ⟨add⟩

/-- **The duration in seconds** as a floating point number. -/
def inSeconds (d : Duration) : Binary64 :=
  (Binary64.ofNat d.seconds).addMagnitudes (Binary64.ofRatio false d.nanos nanosPerSecond)

end Duration

end RtlFlow
