/-! # Dependency graphs

A graph over nodes in the order of their insertion, with an edge from every consumer to each of
its providers. `order?` lists the nodes so that providers stand before their consumers and, of the
nodes that could stand next, the one inserted first does. When there is no such list, `cycle` names
nodes that depend on each other in a ring. -/

namespace RtlFlow

variable {α : Type} [DecidableEq α]

/-- **A dependency graph.** -/
structure DependencyGraph (α : Type) where
  /-- The nodes in the order of their insertion, each once. -/
  nodes : List α
  /-- The positions of a consumer and of one of its providers, for each edge. -/
  edges : List (Nat × Nat)
  deriving DecidableEq, Repr, Inhabited

namespace DependencyGraph

/-- The graph without nodes. -/
def empty : DependencyGraph α := ⟨[], []⟩

/-- **The graph with a node**; a node that is there keeps its position. -/
def addNode (g : DependencyGraph α) (a : α) : DependencyGraph α :=
  if a ∈ g.nodes then g else { g with nodes := g.nodes ++ [a] }

/-- The position of a node. -/
def position (g : DependencyGraph α) (a : α) : Nat := g.nodes.idxOf a

/-- **The graph in which a consumer depends on a provider.** No node depends on itself. -/
def addDependency (g : DependencyGraph α) (consumer provider : α) : DependencyGraph α :=
  let g := (g.addNode consumer).addNode provider
  let e := (g.position consumer, g.position provider)
  if consumer = provider ∨ e ∈ g.edges then g else { g with edges := g.edges ++ [e] }

/-- The number of nodes. -/
def size (g : DependencyGraph α) : Nat := g.nodes.length

/-- Whether there is no node. -/
def isEmpty (g : DependencyGraph α) : Bool := g.nodes.isEmpty

/-- The positions of the providers of a node. -/
def providersOf (g : DependencyGraph α) (i : Nat) : List Nat :=
  g.edges.filterMap fun (c, p) => if c = i then some p else none

/-- Whether a node can stand next behind the nodes that are done. -/
def isReady (g : DependencyGraph α) (done : List Nat) (i : Nat) : Bool :=
  !done.contains i && (g.providersOf i).all done.contains

/-- The node that stands next: of those that can, the one inserted first. -/
def next? (g : DependencyGraph α) (done : List Nat) : Option Nat :=
  (List.range g.size).find? (g.isReady done)

/-- Puts one node after another behind those that are done, at most `fuel` of them. -/
def extend (g : DependencyGraph α) : Nat → List Nat → List Nat
  | 0, done => done
  | fuel + 1, done =>
    match g.next? done with
    | some i => g.extend fuel (done ++ [i])
    | none => done

/-- The positions of all nodes that can be put in order. -/
def arranged (g : DependencyGraph α) : List Nat := g.extend g.size []

/-- The positions of the nodes that cannot be put in order. -/
def blocked (g : DependencyGraph α) : List Nat :=
  let done := g.arranged
  (List.range g.size).filter fun i => !done.contains i

/-- The first provider of a node among the blocked ones. -/
def blockedProvider? (g : DependencyGraph α) (blocked : List Nat) (i : Nat) : Option Nat :=
  let providers := g.providersOf i
  blocked.find? providers.contains

/-- Walks from provider to provider until a node comes back; `path` holds the nodes walked, last
one first. The answer is the part of the path from that node on. -/
def walk (g : DependencyGraph α) (blocked : List Nat) : Nat → List Nat → List Nat
  | 0, path => path
  | _ + 1, [] => []
  | fuel + 1, i :: path =>
    match g.blockedProvider? blocked i with
    | none => i :: path
    | some p =>
      if (i :: path).contains p then (i :: path).takeWhile (· ≠ p) ++ [p]
      else g.walk blocked fuel (p :: i :: path)

/-- **The positions of a ring** of nodes that depend on each other, in ascending order. -/
def cyclePositions (g : DependencyGraph α) : List Nat :=
  match g.blocked with
  | [] => []
  | start :: rest =>
    let blocked := start :: rest
    (g.walk blocked (g.size + 1) [start]).mergeSort (fun a b => a ≤ b)

/-- **The positions of the nodes in order**, providers first. -/
def order? (g : DependencyGraph α) : Option (List Nat) :=
  if g.arranged.length = g.size then some g.arranged else none

/-- The nodes at positions. -/
def nodesAt (g : DependencyGraph α) (positions : List Nat) : List α :=
  positions.filterMap fun i => g.nodes[i]?

/-- **The nodes in order**, or else a ring of nodes that depend on each other. -/
def sort (g : DependencyGraph α) : Except (List α) (List α) :=
  match g.order? with
  | some order => .ok (g.nodesAt order)
  | none => .error (g.nodesAt g.cyclePositions)

/-- Whether some nodes depend on each other in a ring. -/
def hasCycle (g : DependencyGraph α) : Bool := g.order?.isNone

end DependencyGraph

end RtlFlow
