import RtlFlow.Pattern.Basic

/-! # Occurrence of patterns

`Pattern.occursIn` decides whether a pattern describes some part of a text. A set of positions of
the text is a number whose bits say which positions are in it. A pattern carries the set of
positions at which it may start to the set of those at which it may then end: a character moves
every position behind which it stands one further, a condition keeps the positions at which it
holds, and repetition collects all that can be reached. The pattern occurs when it carries the set
of all positions to a set that is not empty. -/

namespace RtlFlow.Pattern

/-- The set of the positions for which a list, read from position `i` on, holds a truth. -/
def positionsFrom (i : Nat) (acc : Nat) : List Bool → Nat
  | [] => acc
  | b :: bs => positionsFrom (i + 1) (if b then acc ||| (1 <<< i) else acc) bs

/-- The set of the positions for which a list holds a truth. -/
def positionsOf (bs : List Bool) : Nat := positionsFrom 0 0 bs

/-- The neighbours of every position of a text, the position behind its last character
included. -/
def neighbours (prev : Option Char) : List Char → List (Option Char × Option Char)
  | [] => [(prev, none)]
  | c :: cs => (prev, some c) :: neighbours (some c) cs

/-- **All that can be reached** from a set of positions by a step taken at most `fuel` times;
`fresh` holds the positions reached last. -/
def reach (step : Nat → Nat) : Nat → Nat → Nat → Nat
  | 0, _, seen => seen
  | fuel + 1, fresh, seen =>
    let next := step fresh
    let new := next ^^^ (next &&& seen)
    if new = 0 then seen else reach step fuel new (seen ||| new)

/-- **Where a step taken a number of times leads.** A set that the step keeps is kept for good. -/
def iterate (step : Nat → Nat) : Nat → Nat → Nat
  | 0, starts => starts
  | n + 1, starts =>
    let next := step starts
    if next = starts then starts else iterate step n next

/-- **A move**: where each set of positions leads. -/
structure Move where
  /-- The positions to which some positions lead. -/
  apply : Nat → Nat

/-- **Where a pattern can end** in a text when it starts at one of some positions. -/
def ends (text : List Char) : Pattern → Move
  | .empty => ⟨id⟩
  | .literal cs =>
    let masks := cs.map fun c => positionsOf (text.map (· == c))
    ⟨fun starts => masks.foldl (fun starts mask => (starts &&& mask) <<< 1) starts⟩
  | .set s =>
    let mask := positionsOf (text.map s.mem)
    ⟨fun starts => (starts &&& mask) <<< 1⟩
  | .look l =>
    let mask := positionsOf ((neighbours none text).map fun (a, b) => l.holds a b)
    ⟨fun starts => starts &&& mask⟩
  | .repeated p least most _ =>
    let step := ends text p
    let further := match most with | some m => m - least | none => text.length + 1
    ⟨fun starts =>
      let reached := iterate step.apply least starts
      reach step.apply further reached reached⟩
  | .group _ p => ends text p
  | .seq p q =>
    let first := ends text p
    let second := ends text q
    ⟨fun starts => second.apply (first.apply starts)⟩
  | .alt p q =>
    let first := ends text p
    let second := ends text q
    ⟨fun starts => first.apply starts ||| second.apply starts⟩

/-- **Whether a pattern occurs in a text.** -/
def occursIn (p : Pattern) (s : String) : Bool :=
  let text := s.toList
  (ends text p).apply (Nat.pow 2 (text.length + 1) - 1) != 0

end RtlFlow.Pattern
