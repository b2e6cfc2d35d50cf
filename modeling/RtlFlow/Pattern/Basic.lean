import RtlFlow.Text.Unicode.Property

/-! # Text patterns

A pattern describes texts: it is built from texts, sets of characters and conditions on a position
by sequence, choice and repetition. Only whether a pattern occurs in a text matters in the end, so
greedy and lazy repetition describe the same. `concat`, `alternation` and `repetition` build
patterns in a simplified form: neighbouring texts are joined, a choice between characters is a set,
and what all branches of a choice begin with stands before the choice. -/

namespace RtlFlow

open RtlFlow.Text.Unicode

/-- **A condition on a position** between two characters. The flag `ascii` takes as word
characters only those among the first 128 code points. -/
inductive Look where
  /-- The start of the text. -/
  | textStart
  /-- The end of the text. -/
  | textEnd
  /-- The start of a line, where lines end in a line feed. -/
  | lineStart
  /-- The end of a line, where lines end in a line feed. -/
  | lineEnd
  /-- The start of a line, where lines end in a carriage return, a line feed or both. -/
  | crlfLineStart
  /-- The end of a line, where lines end in a carriage return, a line feed or both. -/
  | crlfLineEnd
  /-- Just one of the two neighbours is a word character. -/
  | boundary (ascii : Bool)
  /-- Both neighbours are word characters, or neither is. -/
  | noBoundary (ascii : Bool)
  /-- A word starts here. -/
  | wordStart (ascii : Bool)
  /-- A word ends here. -/
  | wordEnd (ascii : Bool)
  /-- No word character stands before. -/
  | noWordBefore (ascii : Bool)
  /-- No word character stands behind. -/
  | noWordBehind (ascii : Bool)
  deriving DecidableEq, Repr, Inhabited

namespace Look

/-- Whether a neighbour is there and a word character. -/
def isWordAt (ascii : Bool) : Option Char → Bool
  | some c => (!ascii || c.toNat < 128) && isWordChar c
  | none => false

/-- **Whether a condition holds** between two neighbours, of which either may be missing. -/
def holds (prev next : Option Char) : Look → Bool
  | .textStart => prev.isNone
  | .textEnd => next.isNone
  | .lineStart => prev.isNone || prev == some '\n'
  | .lineEnd => next.isNone || next == some '\n'
  | .crlfLineStart =>
    prev.isNone || prev == some '\n' || (prev == some '\r' && next != some '\n')
  | .crlfLineEnd =>
    next.isNone || next == some '\r' || (next == some '\n' && prev != some '\r')
  | .boundary a => isWordAt a prev != isWordAt a next
  | .noBoundary a => isWordAt a prev == isWordAt a next
  | .wordStart a => !isWordAt a prev && isWordAt a next
  | .wordEnd a => isWordAt a prev && !isWordAt a next
  | .noWordBefore a => !isWordAt a prev
  | .noWordBehind a => !isWordAt a next

end Look

/-- **A pattern.** Sequences and choices nest to the right. -/
inductive Pattern where
  /-- The empty text. -/
  | empty
  /-- A text, character by character. -/
  | literal (cs : List Char)
  /-- One character of a set. -/
  | set (s : CharSet)
  /-- The empty text where a condition holds. -/
  | look (l : Look)
  /-- A pattern a number of times: at least `least` and, where there is a bound, at most `most`
  times. -/
  | repeated (p : Pattern) (least : Nat) (most : Option Nat) (greedy : Bool)
  /-- A numbered group. -/
  | group (number : Nat) (p : Pattern)
  /-- One pattern and then another. -/
  | seq (p q : Pattern)
  /-- Either of two patterns. -/
  | alt (p q : Pattern)
  deriving DecidableEq, Repr, Inhabited

namespace Pattern

/-! ### Lengths -/

/-- The least number of bytes that a described text has; `none` when no text is described. -/
def leastBytes : Pattern → Option Nat
  | .empty => some 0
  | .literal cs => some (cs.foldl (fun n c => n + c.utf8Size) 0)
  | .set s => s.ranges.head?.map fun (a, _) => (Char.ofNat a).utf8Size
  | .look _ => some 0
  | .repeated p least _ _ => p.leastBytes.map (· * least)
  | .group _ p => p.leastBytes
  | .seq p q => do return (← p.leastBytes) + (← q.leastBytes)
  | .alt p q => do return min (← p.leastBytes) (← q.leastBytes)

/-- The greatest number of bytes that a described text has; `none` when there is no greatest or no
text is described. -/
def mostBytes : Pattern → Option Nat
  | .empty => some 0
  | .literal cs => some (cs.foldl (fun n c => n + c.utf8Size) 0)
  | .set s => s.ranges.getLast?.map fun (_, b) => (Char.ofNat b).utf8Size
  | .look _ => some 0
  | .repeated p _ most _ => do return (← p.mostBytes) * (← most)
  | .group _ p => p.mostBytes
  | .seq p q => do return (← p.mostBytes) + (← q.mostBytes)
  | .alt p q => do return max (← p.mostBytes) (← q.mostBytes)

/-- Whether only the empty text is described. -/
def isAlwaysEmpty (p : Pattern) : Bool := p.mostBytes == some 0

/-- The number of parts of a pattern. -/
def size : Pattern → Nat
  | .repeated p _ _ _ => p.size + 1
  | .group _ p => p.size + 1
  | .seq p q => p.size + q.size + 1
  | .alt p q => p.size + q.size + 1
  | _ => 1

/-! ### Sets and repetition -/

/-- One character of a set. The only character of a set is a text. -/
def ofSet (s : CharSet) : Pattern :=
  match s.sole? with
  | some c => .literal [c]
  | none => .set s

/-- **A pattern repeated.** What describes only the empty text is repeated at most once. -/
def repetition (p : Pattern) (least : Nat) (most : Option Nat) (greedy : Bool) : Pattern :=
  let (least, most) :=
    if p.isAlwaysEmpty then (min least 1, some ((most.map (min 1)).getD 1)) else (least, most)
  if least = 0 ∧ most = some 0 then .empty
  else if least = 1 ∧ most = some 1 then p
  else .repeated p least most greedy

/-! ### Sequences -/

/-- The parts of a sequence. -/
def parts : Pattern → List Pattern
  | .seq p q => p :: q.parts
  | p => [p]

/-- The sequence of some parts. -/
def ofParts : List Pattern → Pattern
  | [] => .empty
  | [p] => p
  | p :: ps => .seq p (ofParts ps)

/-- One more part in front: texts are joined, and the empty text is left out. -/
def prepend : Pattern → List Pattern → List Pattern
  | .empty, ps => ps
  | .literal a, .literal b :: ps => .literal (a ++ b) :: ps
  | p, ps => p :: ps

/-- **The patterns of a list one after the other.** -/
def concat (ps : List Pattern) : Pattern := ofParts ((ps.flatMap parts).foldr prepend [])

/-! ### Choices -/

/-- The branches of a choice. -/
def branches : Pattern → List Pattern
  | .alt p q => p :: q.branches
  | p => [p]

/-- The choice between some branches. Without a branch nothing is described. -/
def ofBranches : List Pattern → Pattern
  | [] => .set .nothing
  | [p] => p
  | p :: ps => .alt p (ofBranches ps)

/-- The set of a pattern that is a text of one character. -/
def charSet? : Pattern → Option CharSet
  | .literal [c] => some (.one c)
  | _ => none

/-- The set of a pattern that is a set. -/
def plainSet? : Pattern → Option CharSet
  | .set s => some s
  | _ => none

/-- The parts with which two lists of parts begin alike. -/
def sharedLead : List Pattern → List Pattern → List Pattern
  | p :: ps, q :: qs => if p = q then p :: sharedLead ps qs else []
  | _, _ => []

/-- The parts with which all branches of a choice begin, where every branch is a sequence. -/
def commonLead (bs : List (List Pattern)) : List Pattern :=
  match bs with
  | first :: rest =>
    if bs.all fun ps => 2 ≤ ps.length then rest.foldl sharedLead first else []
  | [] => []

/-- The choice between some branches that are no choices themselves; `fuel` bounds how often a
common lead is taken out. -/
def choose : Nat → List Pattern → Pattern
  | 0, bs => ofBranches bs
  | fuel + 1, bs =>
    if bs.length ≤ 1 then ofBranches bs
    else
      match bs.mapM charSet? with
      | some sets => ofSet (.unions sets)
      | none =>
        match bs.mapM plainSet? with
        | some sets => ofSet (.unions sets)
        | none =>
          match commonLead (bs.map parts) with
          | [] => ofBranches bs
          | lead =>
            let rests := bs.map fun b => concat (b.parts.drop lead.length)
            concat (lead ++ [choose fuel (rests.flatMap branches)])

/-- **The choice between the patterns of a list.** -/
def alternation (ps : List Pattern) : Pattern :=
  choose (ps.foldl (fun n p => n + p.size) 1) (ps.flatMap branches)

/-! ### Ends -/

/-- Whether every described text starts where the whole text does. -/
def startsText : Pattern → Bool
  | .look .textStart => true
  | .repeated p least _ _ => decide (0 < least) && p.startsText
  | .group _ p => p.startsText
  | .seq p q => p.startsText || (p.isAlwaysEmpty && q.startsText)
  | .alt p q => p.startsText && q.startsText
  | _ => false

/-- Whether every described text ends where the whole text does. -/
def endsText : Pattern → Bool
  | .look .textEnd => true
  | .repeated p least _ _ => decide (0 < least) && p.endsText
  | .group _ p => p.endsText
  | .seq p q => q.endsText || (q.isAlwaysEmpty && p.endsText)
  | .alt p q => p.endsText && q.endsText
  | _ => false

end Pattern

end RtlFlow
