import RtlFlow.Plan.DependencyGraph
import Mathlib.Data.Set.Finite.Basic
import Mathlib.Data.Finset.Range
import Mathlib.Data.List.Perm.Subperm
import Mathlib.Logic.Relation
import Mathlib.Order.WellFounded

/-! # Topological orders of dependency graphs

A list of positions is **in order** when every node stands behind all of its providers. The list
that `arranged` builds is in order at every step, and it can only stop short of the last node when
each node that is left has a provider that is left as well; a finite set with that property holds a
ring. So a graph has an order exactly when no node depends on itself through others
(`order?_eq_none_iff`), and the order found holds every node once (`order?_spec`). -/

namespace RtlFlow

/-- **A relation with a ring**: some element leads back to itself. -/
def Cyclic {α : Type} (r : α → α → Prop) : Prop := ∃ a, Relation.TransGen r a a

/-- A ring is carried over by a map that carries over the relation. -/
theorem Cyclic.lift {α β : Type} {r : α → α → Prop} {s : β → β → Prop} (f : α → β)
    (h : ∀ a b, r a b → s (f a) (f b)) : Cyclic r → Cyclic s := by
  rintro ⟨a, ha⟩
  exact ⟨f a, ha.lift f h⟩

/-- A finite set in which everything leads on to a member holds a ring. -/
theorem cyclic_of_forall_exists {α : Type} {r : α → α → Prop} {s : Finset α} (hne : s.Nonempty)
    (hnext : ∀ a ∈ s, ∃ b ∈ s, r a b) : Cyclic r := by
  by_contra hno
  have hirrefl : ∀ a, ¬ Relation.TransGen r a a := fun a ha => hno ⟨a, ha⟩
  -- without a ring the members are well-founded along the relation, so one of them leads nowhere
  let below : {a // a ∈ s} → {a // a ∈ s} → Prop := fun b a => Relation.TransGen r a.1 b.1
  have : IsTrans {a // a ∈ s} below := ⟨fun _ _ _ hab hbc => hbc.trans hab⟩
  have : Std.Irrefl below := ⟨fun a ha => hirrefl a.1 ha⟩
  have hwf : WellFounded below := Finite.wellFounded_of_trans_of_irrefl below
  obtain ⟨a, ha⟩ := hne
  obtain ⟨m, -, hmin⟩ := hwf.has_min Set.univ ⟨⟨a, ha⟩, trivial⟩
  obtain ⟨b, hb, hmb⟩ := hnext m.1 m.2
  exact hmin ⟨b, hb⟩ trivial (Relation.TransGen.single hmb)

/-- A rank that falls along a relation rules out a ring. -/
theorem not_cyclic_of_rank {α : Type} {r : α → α → Prop} (rank : α → Nat)
    (hrank : ∀ a b, r a b → rank b < rank a) : ¬ Cyclic r := by
  rintro ⟨a, ha⟩
  have hlt : ∀ {b}, Relation.TransGen r a b → rank b < rank a := by
    intro b hab
    induction hab with
    | single h => exact hrank _ _ h
    | tail _ h ih => exact lt_trans (hrank _ _ h) ih
  exact lt_irrefl _ (hlt ha)

/-! ## Reading a list at positions -/

/-- Reading a list at all of its positions gives the list. -/
theorem filterMap_getElem?_range {α : Type} (xs : List α) :
    ((List.range xs.length).filterMap fun i => xs[i]?) = xs := by
  induction xs using List.reverseRecOn with
  | nil => rfl
  | append_singleton xs x ih =>
    rw [List.length_append, List.length_singleton, List.range_succ, List.filterMap_append]
    have hfront : ((List.range xs.length).filterMap fun i => (xs ++ [x])[i]?) =
        (List.range xs.length).filterMap fun i => xs[i]? :=
      List.filterMap_congr fun i hi => List.getElem?_append_left (List.mem_range.mp hi)
    rw [hfront, ih]
    simp

/-- A value stands in what is read at positions where its own position stands among these. -/
theorem idxOf_filterMap_getElem? {α : Type} [DecidableEq α] {xs : List α} (hxs : xs.Nodup)
    {order : List Nat} (hlt : ∀ i ∈ order, i < xs.length) {a : α} (ha : a ∈ xs) :
    (order.filterMap fun i => xs[i]?).idxOf a = order.idxOf (xs.idxOf a) := by
  induction order with
  | nil => rfl
  | cons i order ih =>
    have hi : i < xs.length := hlt i (List.mem_cons_self ..)
    rw [List.filterMap_cons_some (List.getElem?_eq_getElem hi)]
    by_cases h : xs[i] = a
    · subst h
      rw [List.idxOf_cons_self, hxs.idxOf_getElem i hi, List.idxOf_cons_self]
    · have hpos : i ≠ xs.idxOf a := by
        rintro rfl
        exact h (List.getElem_idxOf hi)
      rw [List.idxOf_cons_ne _ h, List.idxOf_cons_ne _ hpos,
        ih fun j hj => hlt j (List.mem_cons_of_mem _ hj)]

namespace DependencyGraph

variable {α : Type} {g : DependencyGraph α} {done : List Nat}

/-- The node at position `i` **depends on** the node at position `j`. -/
def DependsOn (g : DependencyGraph α) (i j : Nat) : Prop := (i, j) ∈ g.edges

/-- **A graph as it is built**: each node stands once, and edges join distinct nodes. -/
structure WellFormed (g : DependencyGraph α) : Prop where
  /-- No node stands twice. -/
  nodup : g.nodes.Nodup
  /-- A consumer is a node. -/
  consumer_lt : ∀ {i j}, g.DependsOn i j → i < g.size
  /-- A provider is a node. -/
  provider_lt : ∀ {i j}, g.DependsOn i j → j < g.size
  /-- No node depends on itself. -/
  ne : ∀ {i j}, g.DependsOn i j → i ≠ j

/-- A graph without edges is well-formed when its nodes are distinct. -/
theorem wellFormed_of_nodup {xs : List α} (hnodup : xs.Nodup) :
    (⟨xs, []⟩ : DependencyGraph α).WellFormed := ⟨hnodup, nofun, nofun, nofun⟩

/-! ## Lists in order -/

/-- **Positions in order**: distinct nodes, each behind all of its providers. -/
structure InOrder (g : DependencyGraph α) (done : List Nat) : Prop where
  /-- No node stands twice. -/
  nodup : done.Nodup
  /-- Only nodes stand in the list. -/
  lt_size : ∀ i ∈ done, i < g.size
  /-- Every provider stands before its consumer. -/
  idxOf_lt : ∀ i ∈ done, ∀ j, g.DependsOn i j → done.idxOf j < done.idxOf i

/-- The providers of the nodes of a list in order are in the list. -/
theorem InOrder.provider_mem (h : g.InOrder done) {i j : Nat} (hi : i ∈ done)
    (hij : g.DependsOn i j) : j ∈ done := by
  rw [← List.idxOf_lt_length_iff]
  exact lt_trans (h.idxOf_lt i hi j hij) (List.idxOf_lt_length_iff.mpr hi)

/-- The empty list is in order. -/
theorem inOrder_nil : g.InOrder [] := ⟨List.nodup_nil, by simp, by simp⟩

@[simp] theorem mem_providersOf {i j : Nat} : j ∈ g.providersOf i ↔ g.DependsOn i j := by
  unfold providersOf DependsOn
  simp only [List.mem_filterMap, Prod.exists]
  constructor
  · rintro ⟨c, p, hcp, h⟩
    split at h
    · rename_i hc
      subst hc
      rwa [Option.some.inj h] at hcp
    · simp at h
  · intro h
    exact ⟨i, j, h, if_pos rfl⟩

/-- A node is ready when it is not done and all of its providers are. -/
theorem isReady_iff {i : Nat} :
    g.isReady done i = true ↔ i ∉ done ∧ ∀ j, g.DependsOn i j → j ∈ done := by
  simp [isReady]

/-- A node that is ready can be put behind a list in order. -/
theorem InOrder.append (h : g.InOrder done) {i : Nat} (hi : i < g.size)
    (hready : g.isReady done i = true) : g.InOrder (done ++ [i]) := by
  obtain ⟨hnot, hprov⟩ := isReady_iff.mp hready
  refine ⟨?_, ?_, ?_⟩
  · rw [List.nodup_append]
    refine ⟨h.nodup, List.nodup_singleton i, ?_⟩
    rintro a ha b hb rfl
    exact hnot (List.mem_singleton.mp hb ▸ ha)
  · intro a ha
    rcases List.mem_append.mp ha with ha | ha
    · exact h.lt_size a ha
    · exact List.mem_singleton.mp ha ▸ hi
  · intro a ha j haj
    rcases List.mem_append.mp ha with ha | ha
    · rw [List.idxOf_append_of_mem ha, List.idxOf_append_of_mem (h.provider_mem ha haj)]
      exact h.idxOf_lt a ha j haj
    · -- the new node stands behind all others, its providers among them
      obtain rfl := List.mem_singleton.mp ha
      have hj := hprov j haj
      rw [List.idxOf_append_of_mem hj, List.idxOf_append_of_notMem hnot]
      have := List.idxOf_lt_length_iff.mpr hj
      omega

/-! ## The arrangement -/

/-- The node that stands next is a node that is ready. -/
theorem next?_eq_some {i : Nat} (h : g.next? done = some i) :
    i < g.size ∧ g.isReady done i = true := by
  unfold next? at h
  exact ⟨List.mem_range.mp (List.mem_of_find?_eq_some h), List.find?_some h⟩

/-- Where no node can stand next, every node that is left waits for one that is left. -/
theorem next?_eq_none (h : g.next? done = none) {i : Nat} (hi : i < g.size) (hnot : i ∉ done) :
    ∃ j, g.DependsOn i j ∧ j ∉ done := by
  unfold next? at h
  have hready := List.find?_eq_none.mp h i (List.mem_range.mpr hi)
  by_contra hall
  push Not at hall
  exact hready (isReady_iff.mpr ⟨hnot, hall⟩)

/-- Extending a list keeps it in order. -/
theorem InOrder.extend (fuel : Nat) (h : g.InOrder done) : g.InOrder (g.extend fuel done) := by
  induction fuel generalizing done with
  | zero => exact h
  | succ fuel ih =>
    unfold DependencyGraph.extend
    split
    · rename_i i hnext
      obtain ⟨hi, hready⟩ := next?_eq_some hnext
      exact ih (h.append hi hready)
    · exact h

/-- A list is extended by as many nodes as the fuel allows, unless none can stand next. -/
theorem length_extend (fuel : Nat) (done : List Nat) :
    (g.extend fuel done).length = done.length + fuel ∨ g.next? (g.extend fuel done) = none := by
  induction fuel generalizing done with
  | zero => exact Or.inl rfl
  | succ fuel ih =>
    unfold DependencyGraph.extend
    split
    · rename_i i hnext
      rcases ih (done ++ [i]) with h | h
      · left
        rw [h, List.length_append, List.length_singleton]
        omega
      · exact Or.inr h
    · rename_i hnext
      exact Or.inr hnext

/-- The arrangement is in order. -/
theorem inOrder_arranged : g.InOrder g.arranged := inOrder_nil.extend g.size

/-- A list in order is a part of all positions. -/
theorem InOrder.subperm_range (h : g.InOrder done) : done.Subperm (List.range g.size) :=
  List.subperm_of_subset h.nodup fun i hi => List.mem_range.mpr (h.lt_size i hi)

/-- A list in order that is as long as the graph holds every node. -/
theorem InOrder.perm_range (h : g.InOrder done) (hlen : done.length = g.size) :
    done.Perm (List.range g.size) :=
  h.subperm_range.perm_of_length_le (by simp [hlen])

/-- **The order of a graph** is in order and holds every node. -/
theorem order?_spec {order : List Nat} (h : g.order? = some order) :
    g.InOrder order ∧ order.Perm (List.range g.size) := by
  unfold order? at h
  split at h
  · rename_i hlen
    obtain rfl := Option.some.inj h
    exact ⟨inOrder_arranged, inOrder_arranged.perm_range hlen⟩
  · simp at h

/-- A graph without an order has a ring. -/
theorem cyclic_of_order?_eq_none (hg : g.WellFormed) (h : g.order? = none) :
    Cyclic g.DependsOn := by
  have hlen : g.arranged.length ≠ g.size := by
    unfold order? at h
    split at h
    · simp at h
    · assumption
  have hstuck : g.next? g.arranged = none := by
    rcases length_extend (g := g) g.size [] with hfull | hstuck
    · exact absurd (hfull.trans (Nat.zero_add _)) hlen
    · exact hstuck
  -- the nodes that are left are a finite set in which each waits for another
  let rest : Finset Nat := (Finset.range g.size).filter fun i => i ∉ g.arranged
  refine cyclic_of_forall_exists (s := rest) ?_ ?_
  · by_contra hempty
    rw [Finset.not_nonempty_iff_eq_empty, Finset.filter_eq_empty_iff] at hempty
    apply hlen
    have hsub : List.range g.size ⊆ g.arranged := fun i hi =>
      not_not.mp (hempty (Finset.mem_range.mpr (List.mem_range.mp hi)))
    have hle := (List.subperm_of_subset List.nodup_range hsub).length_le
    have hge := (inOrder_arranged (g := g)).subperm_range.length_le
    rw [List.length_range] at hle hge
    omega
  · intro i hi
    obtain ⟨hi, hnot⟩ := Finset.mem_filter.mp hi
    obtain ⟨j, hij, hj⟩ := next?_eq_none hstuck (Finset.mem_range.mp hi) hnot
    exact ⟨j, Finset.mem_filter.mpr ⟨Finset.mem_range.mpr (hg.provider_lt hij), hj⟩, hij⟩

/-- A graph with an order has no ring. -/
theorem not_cyclic_of_order?_eq_some (hg : g.WellFormed) {order : List Nat}
    (h : g.order? = some order) : ¬ Cyclic g.DependsOn := by
  obtain ⟨hin, hperm⟩ := order?_spec h
  apply not_cyclic_of_rank order.idxOf
  intro i j hij
  exact hin.idxOf_lt i (hperm.mem_iff.mpr (List.mem_range.mpr (hg.consumer_lt hij))) j hij

/-- **A graph has no order exactly when nodes depend on each other in a ring.** -/
theorem order?_eq_none_iff (hg : g.WellFormed) : g.order? = none ↔ Cyclic g.DependsOn := by
  constructor
  · exact cyclic_of_order?_eq_none hg
  · intro hcyc
    cases h : g.order? with
    | none => rfl
    | some order => exact absurd hcyc (not_cyclic_of_order?_eq_some hg h)

/-! ## The nodes at positions -/

/-- All nodes at all positions are the nodes. -/
theorem nodesAt_range : g.nodesAt (List.range g.size) = g.nodes := filterMap_getElem?_range g.nodes

end DependencyGraph

end RtlFlow
