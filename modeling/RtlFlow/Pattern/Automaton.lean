import Std.Data.HashMap
import RtlFlow.Pattern.Basic
import RtlFlow.Pattern.ByteRange

/-! # The size of patterns

A pattern is recognised by automata over the bytes of a text: one reads the text forward and tells
the groups apart, one reads it backward. `fits` decides whether both stay within the size that is
allowed. The states are counted as they are laid out one by one, and counting stops at the limit,
so that a large repetition costs no more than an automaton of the greatest size.

A state takes 32 bytes, every range of bytes by which a state of a set leads on takes 8, and every
branch of a choice takes 4. States for the ends of characters are shared as far as a cache of
bounded size remembers them, so the size of a set depends on how many states stand before it. -/

namespace RtlFlow.Pattern

/-! ### Counting -/

/-- **The part of an automaton that is laid out**: its states and the bytes that it takes. -/
structure Extent where
  /-- The number of states, which is also the number of the next state. -/
  states : Nat
  /-- The bytes. -/
  bytes : Nat
  deriving DecidableEq, Repr, Inhabited

/-- The greatest size of an automaton: ten mebibytes. -/
def maxBytes : Nat := 10485760

/-- More bytes, within the limit. -/
def Extent.grow (e : Extent) (n : Nat) : Option Extent :=
  if maxBytes < e.bytes + n then none else some { e with bytes := e.bytes + n }

/-- Some more states that take `n` bytes besides their own, within the limit. -/
def Extent.addStates (e : Extent) (count n : Nat) : Option Extent :=
  ({ e with states := e.states + count } : Extent).grow (32 * count + n)

/-- One more state that takes `n` bytes besides its own, within the limit. -/
def Extent.add (e : Extent) (n : Nat) : Option Extent := e.addStates 1 n

/-- **A part of an automaton**: it is laid out behind what there is, and answers whether it ends
in a choice, which then grows by a branch when something is put behind it. -/
structure Layout where
  /-- Lays the part out. -/
  run : Extent → Option (Extent × Bool)

/-- The bytes of the branch by which a part is connected with the next one. -/
def branchBytes (endsInChoice : Bool) : Nat := if endsInChoice then 4 else 0

/-- A single state. -/
def Layout.single : Layout := ⟨fun e => do return (← e.add 0, false)⟩

/-- Some states in a row. -/
def Layout.row (count : Nat) : Layout := ⟨fun e => do return (← e.addStates count 0, false)⟩

/-- One part behind another. -/
def Layout.followedBy (f g : Layout) : Layout where
  run e := do
    let (e, choice) ← f.run e
    let (e, choice') ← g.run e
    return (← e.grow (branchBytes choice), choice')

/-- A part `n` more times behind one that ends in a choice or does not. -/
def Layout.more (f : Layout) : Nat → Extent → Bool → Option (Extent × Bool)
  | 0, e, choice => some (e, choice)
  | n + 1, e, choice =>
    match f.run e with
    | none => none
    | some (e, choice') =>
      match e.grow (branchBytes choice) with
      | none => none
      | some e => f.more n e choice'

/-- **A part a number of times.** -/
def Layout.times (f : Layout) : Nat → Layout
  | 0 => .single
  | n + 1 => ⟨fun e => (f.run e).bind fun (e, choice) => f.more n e choice⟩

/-- A part up to `n` times, each behind a choice that also leads to the end. -/
def Layout.upTo (f : Layout) : Nat → Extent → Bool → Option (Extent × Bool)
  | 0, e, choice => some (e, choice)
  | n + 1, e, choice =>
    match (e.add 0).bind f.run with
    | none => none
    | some (e, choice') =>
      match e.grow (branchBytes choice + 8) with
      | none => none
      | some e => f.upTo n e choice'

/-- **A part at least and at most some times.** -/
def Layout.between (f : Layout) (least most : Nat) : Layout where
  run e := do
    let (e, choice) ← (f.times least).run e
    let (e, choice) ← f.upTo (most - least) (← e.add 0) choice
    return (← e.grow (branchBytes choice), false)

/-- A part at most once. -/
def Layout.optional (f : Layout) : Layout where
  run e := do
    let (e, choice) ← f.run (← e.add 0)
    return (← (← e.add 0).grow (8 + branchBytes choice), false)

/-- A part any number of times. When it may be empty, the choice to go on stands behind it and
another one before it. -/
def Layout.anyTimes (f : Layout) (mayBeEmpty : Bool) : Layout where
  run e :=
    if mayBeEmpty then do
      let (e, choice) ← f.run e
      return (← (← e.addStates 3 0).grow (16 + branchBytes choice), false)
    else do
      let (e, choice) ← f.run (← e.add 0)
      return (← e.grow (4 + branchBytes choice), true)

/-- A part at least once, with a choice behind it that leads back. -/
def Layout.onceOrMore (f : Layout) : Layout where
  run e := do
    let (e, choice) ← f.run e
    return (← (← e.add 0).grow (4 + branchBytes choice), true)

/-- **A part at least `least` times.** -/
def Layout.atLeast (f : Layout) (mayBeEmpty : Bool) : Nat → Layout
  | 0 => f.anyTimes mayBeEmpty
  | 1 => f.onceOrMore
  | n + 2 => (f.times (n + 1)).followedBy f.onceOrMore

/-! ### Sets -/

/-- Mixes a number into a hash. -/
def mix (h : UInt64) (n : Nat) : UInt64 := (h ^^^ n.toUInt64) * 1099511628211

/-- The hash of some numbers. -/
def hashOf (ns : List Nat) : Nat := (ns.foldl mix 14695981039346656037).toNat

/-- **A way on**: a range of bytes and the state that it leads to. -/
structure Edge where
  /-- The bytes. -/
  bytes : ByteRange
  /-- The state. -/
  next : Nat
  deriving DecidableEq, Repr, Inhabited

/-- The number of states that the cache of a forward set remembers. -/
def forwardSlots : Nat := 10000

/-- The number of states that the cache of a backward set remembers. -/
def backwardSlots : Nat := 1000

/-- A state of a forward set that is still open: its ways on, last one first, and the bytes of the
way that is being laid out. -/
structure OpenState where
  /-- The ways on. -/
  edges : List Edge
  /-- The bytes of the open way. -/
  waiting : Option ByteRange
  deriving Repr, Inhabited

/-- The state when its open way leads to a state. -/
def OpenState.close (s : OpenState) (next : Nat) : OpenState :=
  match s.waiting with
  | some bytes => ⟨⟨bytes, next⟩ :: s.edges, none⟩
  | none => s

/-- **A forward set while it is laid out.** -/
structure ForwardSet where
  /-- What is laid out. -/
  extent : Extent
  /-- The states by the slots of the cache. -/
  cache : Std.HashMap Nat (List Edge × Nat)
  /-- The open states, the last one first. -/
  path : List OpenState

/-- The number of a state with some ways on: one that the cache remembers, or a new one. -/
def ForwardSet.share (s : ForwardSet) (edges : List Edge) : Option (ForwardSet × Nat) :=
  let slot := hashOf (edges.flatMap fun d => [d.bytes.first, d.bytes.last, d.next]) % forwardSlots
  let fresh : Option (ForwardSet × Nat) := do
    let extent ← s.extent.add (8 * edges.length)
    return ({ s with extent, cache := s.cache.insert slot (edges, s.extent.states) },
      s.extent.states)
  match s.cache[slot]? with
  | some (edges', id) => if edges' = edges then some (s, id) else fresh
  | none => fresh

/-- Closes the open states but for the first `keep + 1`; the way that is still open then leads to
`next` or to what was closed. -/
def ForwardSet.closeFrom (keep : Nat) : List OpenState → ForwardSet → Nat → Option ForwardSet
  | [], s, _ => some { s with path := [] }
  | top :: rest, s, next =>
    if rest.length ≤ keep then some { s with path := top.close next :: rest }
    else
      match s.share (top.close next).edges.reverse with
      | none => none
      | some (s, id) => closeFrom keep rest s id

/-- The number of open states whose open ways are the first of a stretch. -/
def sharedBytes : List OpenState → List ByteRange → Nat
  | s :: path, b :: bytes => if s.waiting = some b then sharedBytes path bytes + 1 else 0
  | _, _ => 0

/-- The open states for some bytes, last one first. -/
def openStates (path : List OpenState) (bytes : List ByteRange) : List OpenState :=
  bytes.foldl (fun path b => ⟨[], some b⟩ :: path) path

/-- One more stretch; all stretches end in the state `target`. -/
def ForwardSet.stretch (target : Nat) (s : ForwardSet) (bytes : List ByteRange) :
    Option ForwardSet :=
  let keep := sharedBytes s.path.reverse bytes
  match ForwardSet.closeFrom keep s.path s target with
  | none => none
  | some s =>
    match s.path, bytes.drop keep with
    | top :: rest, b :: bytes =>
      some { s with path := openStates (⟨top.edges, some b⟩ :: rest) bytes }
    | _, _ => some s

/-- All stretches of a set, one after the other. -/
def ForwardSet.stretches (target : Nat) : List (List ByteRange) → ForwardSet → Option ForwardSet
  | [], s => some s
  | bytes :: rest, s =>
    match s.stretch target bytes with
    | none => none
    | some s => stretches target rest s

/-- **A set beyond ASCII that is read forward.** Ways with the same end are shared. -/
def forwardSet (pieces : List (List ByteRange)) : Layout where
  run e := do
    let target := e.states
    let s ← ForwardSet.stretches target pieces ⟨← e.add 0, ∅, [⟨[], none⟩]⟩
    let s ← ForwardSet.closeFrom 0 s.path s target
    match s.path with
    | [root] => do
      let (s, _) ← s.share root.edges.reverse
      return (s.extent, false)
    | _ => return (s.extent, false)

/-- **A backward set while it is laid out**: what there is, and the states by the slots of the
cache, each with the way that leads on from it. -/
structure BackwardSet where
  /-- What is laid out. -/
  extent : Extent
  /-- The states by the slots of the cache. -/
  cache : Std.HashMap Nat (Edge × Nat)

/-- The ways of a stretch, from the state `next` on; a way that the cache remembers is shared. -/
def BackwardSet.stretch : List ByteRange → BackwardSet → Nat → Option BackwardSet
  | [], s, _ => (s.extent.grow 4).map fun extent => { s with extent }
  | b :: bytes, s, next =>
    let slot := hashOf [next, b.first, b.last] % backwardSlots
    let fresh : Option BackwardSet := (s.extent.add 0).map fun extent =>
      ⟨extent, s.cache.insert slot (⟨b, next⟩, s.extent.states)⟩
    match s.cache[slot]? with
    | some (d, id) =>
      if d = ⟨b, next⟩ then stretch bytes s id
      else match fresh with | some t => stretch bytes t s.extent.states | none => none
    | none => match fresh with | some t => stretch bytes t s.extent.states | none => none

/-- All stretches of a set, one after the other. -/
def BackwardSet.stretches (target : Nat) : List (List ByteRange) → BackwardSet → Option BackwardSet
  | [], s => some s
  | bytes :: rest, s =>
    match BackwardSet.stretch bytes s target with
    | none => none
    | some s => stretches target rest s

/-- **A set beyond ASCII that is read backward**: a choice between its stretches. -/
def backwardSet (pieces : List (List ByteRange)) : Layout where
  run e := do
    let start ← e.addStates 2 0
    let s ← BackwardSet.stretches (e.states + 1) pieces ⟨start, ∅⟩
    return (s.extent, false)

/-- A set of ASCII characters: one state for the characters and one behind them. -/
def asciiSet (s : CharSet) : Layout where
  run e := do return (← e.addStates 2 (8 * s.ranges.length), false)

/-- **A set.** -/
def setLayout (backward : Bool) (s : CharSet) : Layout :=
  if s.isAscii then asciiSet s
  else if backward then backwardSet s.byteRanges
  else forwardSet s.byteRanges

/-! ### Choices between texts -/

/-- A place in some texts that are read at once: the stretches of ways on between the texts that
end here. A way on is a byte with what is left of the texts that go on with it. -/
structure TextFork where
  /-- The numbers of ways on in the stretches that are closed, last one first. -/
  closed : List Nat
  /-- All ways on of the closed stretches. -/
  past : List (List (List Nat))
  /-- The ways on of the open stretch. -/
  current : List (Nat × List (List Nat))

/-- The ways on with one more text that goes on with a byte. -/
def addWay (byte : Nat) (rest : List Nat) :
    List (Nat × List (List Nat)) → List (Nat × List (List Nat))
  | [] => [(byte, [rest])]
  | (b, texts) :: ways =>
    if b = byte then (b, texts ++ [rest]) :: ways else (b, texts) :: addWay byte rest ways

/-- The place with one more text. A text that ends here closes the stretch of ways, unless one
that ended here before had no way in front of it either. -/
def TextFork.add (f : TextFork) : List Nat → TextFork
  | [] =>
    if f.past.isEmpty && f.current.isEmpty && !f.closed.isEmpty then f
    else ⟨f.current.length :: f.closed, f.past ++ f.current.map (·.2), []⟩
  | byte :: rest => { f with current := addWay byte rest f.current }

/-- The states and further bytes of a choice between texts from a place on; `fuel` bounds the
length of the texts. A stretch of one way is a state, one of more ways a state with a range for
each, and a choice binds the stretches and the ends of texts together. -/
def forkExtent : Nat → List (List Nat) → Extent
  | 0, _ => ⟨0, 0⟩
  | fuel + 1, texts =>
    let f := texts.foldl TextFork.add ⟨[], [], []⟩
    let stretches := (f.current.length :: f.closed).filter (· ≠ 0)
    let ranges := stretches.filter (· ≠ 1)
    let here : Extent :=
      ⟨stretches.length + 1,
        ranges.foldl (fun n k => n + 8 * k) (4 * (stretches.length + f.closed.length))⟩
    let ways := (f.past ++ f.current.map (·.2)).filter fun texts => texts.any (!·.isEmpty)
    ways.foldl (fun (e : Extent) texts =>
      let inner := forkExtent fuel texts
      ⟨e.states + inner.states, e.bytes + inner.bytes⟩) here

/-- The bytes of a text. -/
def bytesOf (cs : List Char) : List Nat :=
  cs.flatMap fun c => (String.utf8EncodeChar c).map (·.toNat)

/-- **A choice between texts**, which are read at once. -/
def textsLayout (backward : Bool) (texts : List (List Char)) : Layout :=
  let bytes := texts.map fun cs => if backward then (bytesOf cs).reverse else bytesOf cs
  let longest := bytes.foldl (fun n t => max n t.length) 0
  let all := forkExtent (longest + 1) bytes
  ⟨fun e => do return (← e.addStates (all.states + 1) all.bytes, false)⟩

/-! ### Patterns -/

/-- The text of a pattern that is one. -/
def text? : Pattern → Option (List Char)
  | .literal cs => some cs
  | _ => none

/-- The texts of a choice between nothing but texts. -/
def texts? (p : Pattern) : Option (List (List Char)) := p.branches.mapM text?

/-- A branch of a choice that stands behind `before` others. The states of the choice itself, one
in front of its branches and one behind them, are laid out behind its second branch. -/
def Layout.asBranch (f : Layout) (before : Nat) : Layout where
  run e := do
    let (e, choice) ← f.run e
    let e ← if before = 1 then e.addStates 2 0 else some e
    return (← e.grow (4 + branchBytes choice), false)

/-- A part as it is, or as the last branch of a choice behind some others. -/
def Layout.closing (f : Layout) (before : Nat) : Layout :=
  if before = 0 then f else f.asBranch before

/-- The automaton of a pattern, which is the rest of a choice behind `before` branches when there
are any. -/
def layoutFrom (backward : Bool) : Pattern → Nat → Layout
  | .empty, before => Layout.single.closing before
  | .literal cs, before => (Layout.row (bytesOf cs).length).closing before
  | .set s, before => (setLayout backward s).closing before
  | .look _, before => Layout.single.closing before
  | .repeated p least most _, before =>
    let f := layoutFrom backward p 0
    let repeated :=
      match most with
      | none => f.atLeast (p.leastBytes.getD 0 == 0) least
      | some most =>
        if least = 0 ∧ most = 1 then f.optional
        else if least = most then f.times least
        else f.between least most
    repeated.closing before
  | .group _ p, before =>
    let f := layoutFrom backward p 0
    (if backward then f else (Layout.single.followedBy f).followedBy .single).closing before
  | .seq p q, before =>
    let f := layoutFrom backward p 0
    let g := layoutFrom backward q 0
    (if backward then g.followedBy f else f.followedBy g).closing before
  | .alt p q, before =>
    match if before = 0 then texts? (.alt p q) else none with
    | some texts => textsLayout backward texts
    | none =>
      let first := (layoutFrom backward p 0).asBranch before
      let rest := layoutFrom backward q (before + 1)
      ⟨fun e => (first.run e).bind fun (e, _) => rest.run e⟩

/-- **The automaton of a pattern.** A backward one reads sequences from their end on and leaves
groups out. -/
def layout (backward : Bool) (p : Pattern) : Layout := layoutFrom backward p 0

/-- Any byte: one state for the bytes and one behind them. -/
def anyByte : Layout := ⟨fun e => do return (← e.addStates 2 8, false)⟩

/-- **The automaton that looks for a pattern in a text**: any bytes come first, unless the pattern
is bound to the end at which reading starts, and a last state tells that it was found. -/
def searchLayout (backward : Bool) (p : Pattern) : Layout :=
  let bound := if backward then p.endsText else p.startsText
  let lead := if bound then .single else anyByte.anyTimes false
  let body := layout backward (.group 0 p)
  (lead.followedBy body).followedBy .single

/-- **Whether both automata of a pattern are within the limit.** -/
def fits (p : Pattern) : Bool :=
  ((searchLayout false p).run ⟨0, 0⟩).isSome && ((searchLayout true p).run ⟨0, 0⟩).isSome

end RtlFlow.Pattern
