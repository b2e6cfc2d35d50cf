import RtlFlow.Proofs.Plan.GraphBuilding
import Mathlib.Data.List.Lex
import Mathlib.Data.List.Range

/-! # The stable order of a graph

Of all lists in which every node stands behind its providers, a sorted graph gives the one that is
least when the nodes are compared, place by place, by the order of their insertion. Any such list
begins with a node that is ready, and the arrangement never takes a later one than that
(`InOrder.extend_eq_or_lex`). -/

namespace RtlFlow

/-- No arrangement of the first numbers is less than their row. -/
theorem not_lex_range' {order : List Nat} {start length : Nat}
    (h : order.Perm (List.range' start length)) :
    ¬ List.Lex (· < ·) order (List.range' start length) := by
  induction length generalizing start order with
  | zero =>
    rw [List.range'_zero]
    rintro ⟨⟩
  | succ length ih =>
    rw [List.range'_succ] at h ⊢
    intro hlex
    cases hlex with
    | nil => simpa using h.length_eq
    | rel hlt =>
      -- the first number is not among the others
      have hmem := h.subset (List.mem_cons_self ..)
      simp only [List.mem_cons, List.mem_range'_1] at hmem
      omega
    | cons hlex => exact ih h.cons_inv hlex

namespace DependencyGraph

variable {α : Type} {g : DependencyGraph α} {done rest : List Nat}

/-! ## The first node that is ready -/

/-- No node that is ready comes before the one that stands next. -/
theorem next?_eq_some_iff {i : Nat} :
    g.next? done = some i ↔
      i < g.size ∧ g.isReady done i = true ∧ ∀ j < i, g.isReady done j = false := by
  rw [next?, List.find?_range_eq_some]
  simp only [List.mem_range, Bool.not_eq_true']
  tauto

/-- A node that is ready is the one that stands next, or a node before it stands next. -/
theorem exists_next?_le {i : Nat} (hi : i < g.size) (hready : g.isReady done i = true) :
    ∃ j ≤ i, g.next? done = some j := by
  cases hnext : g.next? done with
  | none =>
    have hnot := List.find?_eq_none.mp hnext i (List.mem_range.mpr hi)
    exact absurd hready hnot
  | some j =>
    refine ⟨j, ?_, rfl⟩
    by_contra hlt
    have hnot := (next?_eq_some_iff.mp hnext).2.2 i (by omega)
    simp [hready] at hnot

/-- **In a list in order the next node is ready** behind the nodes before it. -/
theorem InOrder.isReady {i : Nat} (h : g.InOrder (done ++ i :: rest)) :
    i < g.size ∧ g.isReady done i = true := by
  have hmem : i ∈ done ++ i :: rest := by simp
  have hnot : i ∉ done := fun hi =>
    (List.disjoint_of_nodup_append h.nodup) hi (List.mem_cons_self ..)
  refine ⟨h.lt_size i hmem, isReady_iff.mpr ⟨hnot, fun j hj => ?_⟩⟩
  -- a provider stands before the node, so it stands among those that are done
  have hlt := h.idxOf_lt i hmem j hj
  rw [List.idxOf_append_of_notMem hnot, List.idxOf_cons_self] at hlt
  by_contra hj'
  rw [List.idxOf_append_of_notMem hj'] at hlt
  omega

/-- What is done stays in front. -/
theorem prefix_extend (fuel : Nat) (done : List Nat) : done <+: g.extend fuel done := by
  induction fuel generalizing done with
  | zero => exact List.prefix_rfl
  | succ fuel ih =>
    unfold DependencyGraph.extend
    split
    · exact (List.prefix_append _ _).trans (ih _)
    · exact List.prefix_rfl

/-! ## The least list in order -/

/-- **An extension is the least list in order** of those that go on in the same way: it is equal to
such a list, or less at the first place at which they differ. -/
theorem InOrder.extend_eq_or_lex (h : g.InOrder (done ++ rest)) :
    g.extend rest.length done = done ++ rest ∨
      List.Lex (· < ·) (g.extend rest.length done) (done ++ rest) := by
  induction rest generalizing done with
  | nil => exact Or.inl (List.append_nil _).symm
  | cons i rest ih =>
    obtain ⟨hi, hready⟩ := h.isReady
    obtain ⟨j, hj, hnext⟩ := exists_next?_le hi hready
    have hstep : g.extend (i :: rest).length done = g.extend rest.length (done ++ [j]) := by
      rw [List.length_cons, DependencyGraph.extend, hnext]
    rw [hstep]
    rcases Nat.lt_or_eq_of_le hj with hlt | rfl
    · -- here the extension takes an earlier node
      right
      obtain ⟨more, hmore⟩ := prefix_extend (g := g) rest.length (done ++ [j])
      rw [← hmore, List.append_assoc, List.singleton_append]
      exact List.Lex.append_left _ (.rel hlt) done
    · have hsplit : done ++ j :: rest = (done ++ [j]) ++ rest := by simp
      rw [hsplit] at h ⊢
      exact ih h

/-- **The arrangement is the least list in order** of those that hold every node. -/
theorem InOrder.arranged_eq_or_lex {order : List Nat} (h : g.InOrder order)
    (hperm : order.Perm (List.range g.size)) :
    g.arranged = order ∨ List.Lex (· < ·) g.arranged order := by
  have hlength : order.length = g.size := by simpa using hperm.length_eq
  have hleast : g.extend order.length [] = [] ++ order ∨
      List.Lex (· < ·) (g.extend order.length []) ([] ++ order) :=
    InOrder.extend_eq_or_lex h
  rwa [hlength] at hleast

/-! ## Names and their positions -/

section Names

variable [DecidableEq α] {names other : List α}

/-- The nodes stand at the positions in their row. -/
theorem map_position_nodes (hg : g.WellFormed) : g.nodes.map g.position = List.range g.size := by
  refine List.ext_getElem (by simp [size]) fun i hi _ => ?_
  rw [List.getElem_map, List.getElem_range]
  exact position_getElem hg (by simpa using hi)

/-- The node at the position of a node is that node. -/
theorem nodesAt_map_position (h : ∀ a ∈ names, a ∈ g.nodes) :
    g.nodesAt (names.map g.position) = names := by
  rw [nodesAt, List.filterMap_map]
  calc names.filterMap ((fun i => g.nodes[i]?) ∘ g.position)
      = names.filterMap some :=
        List.filterMap_congr fun a ha => List.getElem?_idxOf (h a ha)
    _ = names := List.filterMap_some

/-- The positions of the nodes at some positions are these. -/
theorem map_position_nodesAt (hg : g.WellFormed) {order : List Nat} (h : ∀ i ∈ order, i < g.size) :
    (g.nodesAt order).map g.position = order := by
  rw [nodesAt, List.map_filterMap]
  calc order.filterMap (fun i => g.nodes[i]?.map g.position)
      = order.filterMap some := by
        refine List.filterMap_congr fun i hi => ?_
        have hlt : i < g.nodes.length := h i hi
        rw [List.getElem?_eq_getElem hlt, Option.map_some, position_getElem hg hlt]
    _ = order := List.filterMap_some

/-- **Names that stand behind all that they require** are in order by their positions. -/
theorem inOrder_map_position (hg : g.WellFormed) (hperm : names.Perm g.nodes)
    (h : ∀ a b, g.Requires a b → names.idxOf b < names.idxOf a) :
    g.InOrder (names.map g.position) ∧ (names.map g.position).Perm (List.range g.size) := by
  have hrange : (names.map g.position).Perm (List.range g.size) := by
    rw [← map_position_nodes hg]
    exact hperm.map _
  have hlt : ∀ i ∈ names.map g.position, i < g.size := fun i hi =>
    List.mem_range.mp (hrange.subset hi)
  have hplace : ∀ a ∈ g.nodes, (names.map g.position).idxOf (g.position a) = names.idxOf a := by
    intro a ha
    rw [← idxOf_nodesAt hg hlt ha, nodesAt_map_position fun b hb => hperm.subset hb]
  refine ⟨⟨hrange.nodup_iff.mpr List.nodup_range, hlt, fun i hi j hij => ?_⟩, hrange⟩
  -- both positions are those of nodes
  have hi' : i < g.nodes.length := hlt i hi
  have hj' : j < g.nodes.length := hg.provider_lt hij
  have hrequires : g.Requires g.nodes[i] g.nodes[j] := by
    refine ⟨List.getElem_mem hi', List.getElem_mem hj', ?_⟩
    rwa [position_getElem hg hi', position_getElem hg hj']
  have hbefore := h _ _ hrequires
  rw [← hplace _ hrequires.1, ← hplace _ hrequires.2.1] at hbefore
  rwa [position_getElem hg hi', position_getElem hg hj'] at hbefore

/-- **A sorted graph is the least of all lists of its nodes** in which every node stands behind all
that it requires. -/
theorem sort_eq_or_lex (hg : g.WellFormed) (hsort : g.sort = .ok names)
    (hperm : other.Perm g.nodes)
    (h : ∀ a b, g.Requires a b → other.idxOf b < other.idxOf a) :
    other = names ∨ List.Lex (· < ·) (names.map g.position) (other.map g.position) := by
  unfold sort order? at hsort
  split_ifs at hsort
  obtain rfl := Except.ok.inj hsort
  obtain ⟨hin, hrange⟩ := inOrder_map_position hg hperm h
  rw [map_position_nodesAt hg inOrder_arranged.lt_size]
  rcases hin.arranged_eq_or_lex hrange with heq | hlex
  · left
    rw [heq, nodesAt_map_position fun b hb => hperm.subset hb]
  · exact Or.inr hlex

end Names

/-! ## The steps of building a graph -/

section Steps

variable [DecidableEq α] {a b : α}

/-- **A step in building a graph.** -/
inductive Step (α : Type) where
  /-- A node is named. -/
  | node (a : α)
  /-- A node is to depend on another one. -/
  | dependency (consumer provider : α)

/-- The names in a step. -/
def Step.names : Step α → List α
  | .node a => [a]
  | .dependency a b => [a, b]

/-- The graph with a step taken. -/
def take (g : DependencyGraph α) : Step α → DependencyGraph α
  | .node a => g.addNode a
  | .dependency a b => g.addDependency a b

/-- **The graph that steps build**, one after the other. -/
def ofSteps (steps : List (Step α)) : DependencyGraph α := steps.foldl take empty

/-- **The names in steps**, in the order in which they come up first. -/
def declared (steps : List (Step α)) : List α := (steps.flatMap Step.names).eraseDups

/-- **A name needs another one** when a step says so; no name needs itself. -/
def Needs (steps : List (Step α)) (a b : α) : Prop := a ≠ b ∧ Step.dependency a b ∈ steps

/-- **A graph that steps have built**: its nodes and what they require are what the steps say. -/
structure Builds (steps : List (Step α)) (g : DependencyGraph α) : Prop where
  /-- The graph is well-formed. -/
  wellFormed : g.WellFormed
  /-- Its nodes are the names in the steps. -/
  nodes : g.nodes = declared steps
  /-- What they require is what the names need. -/
  requires : ∀ a b, g.Requires a b ↔ Needs steps a b

variable {steps : List (Step α)}

@[simp] theorem mem_addNode {x : α} : x ∈ (g.addNode a).nodes ↔ x ∈ g.nodes ∨ x = a := by
  by_cases ha : a ∈ g.nodes
  · rw [addNode_of_mem ha]
    exact ⟨Or.inl, fun h => h.elim id fun h => h ▸ ha⟩
  · simp [addNode_of_notMem ha]

/-- A node that is added stands behind the others, unless it is one of them. -/
theorem nodes_addNode {xs : List α} (h : g.nodes = xs.eraseDups) :
    (g.addNode a).nodes = (xs ++ [a]).eraseDups := by
  rw [List.eraseDups_append, ← h]
  by_cases ha : a ∈ xs
  · have hmem : a ∈ g.nodes := by rwa [h, List.mem_eraseDups]
    simp [addNode_of_mem hmem, List.removeAll, ha]
  · have hnot : a ∉ g.nodes := by rwa [h, List.mem_eraseDups]
    simp [addNode_of_notMem hnot, List.removeAll, ha, List.eraseDups_cons]

/-- A node that is added requires nothing and is required by nothing. -/
theorem requires_addNode (hg : g.WellFormed) {x y : α} :
    (g.addNode a).Requires x y ↔ g.Requires x y := by
  by_cases ha : a ∈ g.nodes
  · rw [addNode_of_mem ha]
  · rw [addNode_of_notMem ha]
    have hold : ∀ {z}, z ∈ g.nodes → (g.nodes ++ [a]).idxOf z = g.position z :=
      List.idxOf_append_of_mem
    have hnew : (g.nodes ++ [a]).idxOf a = g.size := by
      rw [List.idxOf_append_of_notMem ha, List.idxOf_cons_self]
      rfl
    constructor
    · rintro ⟨hx, hy, h⟩
      have h' : g.DependsOn ((g.nodes ++ [a]).idxOf x) ((g.nodes ++ [a]).idxOf y) := h
      rcases List.mem_append.mp hx with hx | hx
      · rcases List.mem_append.mp hy with hy | hy
        · exact ⟨hx, hy, by rwa [hold hx, hold hy] at h'⟩
        · rw [List.mem_singleton.mp hy, hnew] at h'
          exact absurd (hg.provider_lt h') (lt_irrefl _)
      · rw [List.mem_singleton.mp hx, hnew] at h'
        exact absurd (hg.consumer_lt h') (lt_irrefl _)
    · rintro ⟨hx, hy, h⟩
      refine ⟨List.mem_append_left _ hx, List.mem_append_left _ hy, ?_⟩
      show g.DependsOn ((g.nodes ++ [a]).idxOf x) ((g.nodes ++ [a]).idxOf y)
      rwa [hold hx, hold hy]

/-- To add a dependency is to add its nodes first. -/
theorem addDependency_addNode :
    ((g.addNode a).addNode b).addDependency a b = g.addDependency a b := by
  unfold addDependency
  rw [addNode_of_mem (a := a) (by simp), addNode_of_mem (a := b) (by simp)]

/-- **A step is taken in the graph** as it is written down. -/
theorem Builds.take (h : Builds steps g) (s : Step α) : Builds (steps ++ [s]) (g.take s) := by
  have hdeclared : declared (steps ++ [s]) = (steps.flatMap Step.names ++ s.names).eraseDups := by
    simp [declared]
  cases s with
  | node a =>
    refine ⟨h.wellFormed.addNode a, ?_, fun x y => ?_⟩
    · rw [hdeclared]
      exact nodes_addNode h.nodes
    · rw [DependencyGraph.take, requires_addNode h.wellFormed, h.requires]
      simp [Needs]
  | dependency a b =>
    have hnodes : ((g.addNode a).addNode b).nodes = declared (steps ++ [.dependency a b]) := by
      rw [hdeclared, nodes_addNode (nodes_addNode h.nodes), List.append_assoc]
      rfl
    have hwf := (h.wellFormed.addNode a).addNode b
    have hextends := addDependency_extends hwf (a := a) (b := b) (by simp) (by simp)
    rw [addDependency_addNode] at hextends
    refine ⟨hextends.wellFormed, hextends.nodes.trans hnodes, fun x y => ?_⟩
    rw [DependencyGraph.take, hextends.requires, requires_addNode (h.wellFormed.addNode a),
      requires_addNode h.wellFormed, h.requires]
    simp only [Needs, List.mem_append, List.mem_singleton, Step.dependency.injEq]
    constructor
    · rintro (⟨hne, hold⟩ | ⟨rfl, rfl, hne⟩)
      · exact ⟨hne, Or.inl hold⟩
      · exact ⟨hne, Or.inr ⟨rfl, rfl⟩⟩
    · rintro ⟨hne, hold | ⟨rfl, rfl⟩⟩
      · exact Or.inl ⟨hne, hold⟩
      · exact Or.inr ⟨rfl, rfl, hne⟩

/-- **Steps build the graph of what they say.** -/
theorem builds_ofSteps (steps : List (Step α)) : Builds steps (ofSteps steps) := by
  induction steps using List.reverseRecOn with
  | nil =>
    refine ⟨wellFormed_of_nodup List.nodup_nil, rfl, fun a b => ?_⟩
    exact iff_of_false not_requires_of_edges fun h => by simpa using h.2
  | append_singleton steps s ih =>
    rw [ofSteps, List.foldl_append]
    exact ih.take s

/-- **An order of the names in steps**: each stands once, behind all that it needs. -/
structure Orders (steps : List (Step α)) (names : List α) : Prop where
  /-- All names stand in it, each once. -/
  perm : names.Perm (declared steps)
  /-- What a name needs stands before it. -/
  idxOf_lt : ∀ a b, Needs steps a b → names.idxOf b < names.idxOf a

/-- A name that stands behind all that it needs is in no ring. -/
theorem Orders.not_cyclic {names : List α} (h : Orders steps names) : ¬ Cyclic (Needs steps) :=
  not_cyclic_of_rank names.idxOf h.idxOf_lt

end Steps

end DependencyGraph

end RtlFlow
