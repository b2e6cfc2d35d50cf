import RtlFlow.Plan.DependencyGraph

/-! # Ordering by counting

The nodes of a graph can be put in order without a look at all of them for every place. For each
node the providers that are missing are counted, and a node is put among those that can stand next
as soon as none is missing. To put a node in order is then to count it off at its consumers. -/

namespace RtlFlow

/-- **How far the counting has come.** -/
structure Tally where
  /-- The nodes that are done, in order. -/
  done : List Nat
  /-- The nodes that can stand next, in ascending order. -/
  ready : List Nat
  /-- The number of providers that are missing, for each node. -/
  missing : List Nat
  deriving DecidableEq, Repr

namespace Tally

/-- A number put in its place in an ascending list; one that is there is not put in again. -/
def putAscending (i : Nat) : List Nat → List Nat
  | [] => [i]
  | j :: rest =>
    if i < j then i :: j :: rest else if i = j then j :: rest else j :: putAscending i rest

/-- The tally with so many providers of a node `left`. The node can stand next when none is. -/
def lower (t : Tally) (consumer left : Nat) : Tally where
  done := t.done
  ready := if left = 0 then putAscending consumer t.ready else t.ready
  missing := t.missing.set consumer left

/-- **One more provider of a node is done.** There is no answer when none was missing. -/
def countOff? (t : Tally) (consumer : Nat) : Option Tally :=
  match t.missing[consumer]? with
  | some (left + 1) => some (t.lower consumer left)
  | _ => none

end Tally

namespace DependencyGraph

variable {α : Type}

/-- The positions of the consumers of a node. -/
def consumersOf (g : DependencyGraph α) (i : Nat) : List Nat :=
  g.edges.filterMap fun (c, p) => if p = i then some c else none

/-- The counts of a graph of which nothing is done. -/
def tally (g : DependencyGraph α) : Tally where
  done := []
  ready := (List.range g.size).filter fun i => (g.providersOf i).isEmpty
  missing := (List.range g.size).map fun i => (g.providersOf i).length

/-- Puts the first node that can stand next behind those that are done, at most `fuel` times. -/
def count? (g : DependencyGraph α) : Nat → Tally → Option Tally
  | 0, t => some t
  | fuel + 1, t =>
    match t.ready with
    | [] => some t
    | i :: rest =>
      ((g.consumersOf i).foldlM Tally.countOff? { t with done := t.done ++ [i], ready := rest }).bind
        (g.count? fuel)

/-- **The positions of all nodes that can be put in order**, found by counting. -/
def counted? (g : DependencyGraph α) : Option (List Nat) :=
  (g.count? g.size g.tally).map Tally.done

end DependencyGraph

end RtlFlow
