import RtlFlow.Proofs.Plan.TopologicalOrder
import Mathlib.Data.List.Perm.Basic

/-! # Graphs as they are built

A graph is built by naming nodes and dependencies, while its edges join positions. `Requires` is
the relation between names that a graph holds: a node that is added leaves it as it is, and a
dependency adds one pair to it (`addDependency_extends`). So a graph that is built by folding over
data requires exactly the pairs that the data name (`foldl_extends`), and `sort` is a statement
about these pairs (`sort_eq_ok`, `sort_eq_error_iff`). -/

namespace RtlFlow.DependencyGraph

variable {α : Type} [DecidableEq α] {g : DependencyGraph α} {a b : α}

/-- The node `a` **requires** the node `b`. -/
def Requires (g : DependencyGraph α) (a b : α) : Prop :=
  a ∈ g.nodes ∧ b ∈ g.nodes ∧ g.DependsOn (g.position a) (g.position b)

theorem position_lt_size : g.position a < g.size ↔ a ∈ g.nodes := List.idxOf_lt_length_iff

/-- The position of a node tells which node it is. -/
theorem position_inj (ha : a ∈ g.nodes) : g.position a = g.position b ↔ a = b :=
  List.idxOf_inj ha

/-- The position of the node at a position. -/
theorem position_getElem (hg : g.WellFormed) {i : Nat} (hi : i < g.nodes.length) :
    g.position g.nodes[i] = i :=
  hg.nodup.idxOf_getElem i hi

/-- **A ring of positions is a ring of names.** -/
theorem cyclic_requires_iff (hg : g.WellFormed) : Cyclic g.Requires ↔ Cyclic g.DependsOn := by
  constructor
  · exact Cyclic.lift g.position fun _ _ h => h.2.2
  · intro hcyc
    obtain ⟨i, hi⟩ := hcyc
    obtain ⟨j, hij, -⟩ := Relation.TransGen.head'_iff.mp hi
    -- any node will do as the name of what is no position
    have hlt := hg.consumer_lt hij
    let name : Nat → α := fun k => (g.nodes[k]?).getD g.nodes[i]
    have hname : ∀ k, k < g.nodes.length → name k ∈ g.nodes ∧ g.position (name k) = k := by
      intro k hk
      have hk' : name k = g.nodes[k] := by simp [name, hk]
      rw [hk']
      exact ⟨List.getElem_mem hk, position_getElem hg hk⟩
    refine Cyclic.lift name (fun k l hkl => ?_) ⟨i, hi⟩
    obtain ⟨hk, hkpos⟩ := hname k (hg.consumer_lt hkl)
    obtain ⟨hl, hlpos⟩ := hname l (hg.provider_lt hkl)
    exact ⟨hk, hl, by rwa [hkpos, hlpos]⟩

/-! ## Building -/

/-- A graph without edges requires nothing. -/
theorem not_requires_of_edges {xs : List α} : ¬ (⟨xs, []⟩ : DependencyGraph α).Requires a b := by
  rintro ⟨-, -, h⟩
  exact nomatch h

/-- **A graph extended by pairs**: the nodes are the same, and of the names exactly those that
the relation names are required in addition. -/
structure Extends (g g' : DependencyGraph α) (added : α → α → Prop) : Prop where
  /-- The graph is well-formed. -/
  wellFormed : g'.WellFormed
  /-- The nodes are the same. -/
  nodes : g'.nodes = g.nodes
  /-- The pairs are added. -/
  requires : ∀ a b, g'.Requires a b ↔ g.Requires a b ∨ added a b

/-- What is added may be described in another way. -/
theorem Extends.congr {g' : DependencyGraph α} {added added' : α → α → Prop}
    (h : g.Extends g' added) (hiff : ∀ a b, added a b ↔ added' a b) : g.Extends g' added' :=
  ⟨h.wellFormed, h.nodes, fun a b => by rw [h.requires, hiff]⟩

/-- A node that is there is not added. -/
theorem addNode_of_mem (ha : a ∈ g.nodes) : g.addNode a = g := if_pos ha

/-- A node that is new is put last and depends on nothing. -/
theorem addNode_of_notMem (ha : a ∉ g.nodes) : g.addNode a = ⟨g.nodes ++ [a], g.edges⟩ := if_neg ha

/-- Adding a node keeps a graph well-formed. -/
theorem WellFormed.addNode (hg : g.WellFormed) (a : α) : (g.addNode a).WellFormed := by
  by_cases ha : a ∈ g.nodes
  · rwa [addNode_of_mem ha]
  · rw [addNode_of_notMem ha]
    have hsize : (⟨g.nodes ++ [a], g.edges⟩ : DependencyGraph α).size = g.size + 1 := by
      simp [size]
    refine ⟨?_, fun h => ?_, fun h => ?_, hg.ne⟩
    · rw [List.nodup_append]
      refine ⟨hg.nodup, List.nodup_singleton a, ?_⟩
      rintro x hx y hy rfl
      exact ha (List.mem_singleton.mp hy ▸ hx)
    · rw [hsize]
      exact Nat.lt_succ_of_lt (hg.consumer_lt h)
    · rw [hsize]
      exact Nat.lt_succ_of_lt (hg.provider_lt h)

/-- **A dependency adds one pair** to what a graph requires, and none when a node is to depend on
itself. -/
theorem addDependency_extends (hg : g.WellFormed) (ha : a ∈ g.nodes) (hb : b ∈ g.nodes) :
    g.Extends (g.addDependency a b) fun x y => x = a ∧ y = b ∧ a ≠ b := by
  unfold addDependency
  rw [addNode_of_mem ha, addNode_of_mem hb]
  by_cases hold : a = b ∨ (g.position a, g.position b) ∈ g.edges
  · rw [if_pos hold]
    refine ⟨hg, rfl, fun x y => ⟨Or.inl, ?_⟩⟩
    rintro (h | ⟨rfl, rfl, hne⟩)
    · exact h
    · exact ⟨ha, hb, hold.resolve_left hne⟩
  · rw [if_neg hold]
    push Not at hold
    have hedge : ∀ {i j}, (i, j) ∈ g.edges ++ [(g.position a, g.position b)] →
        (i, j) ∈ g.edges ∨ (i = g.position a ∧ j = g.position b) := by
      intro i j h
      simpa using h
    refine ⟨⟨hg.nodup, fun h => ?_, fun h => ?_, fun h => ?_⟩, rfl, fun x y => ⟨?_, ?_⟩⟩
    · rcases hedge h with h | ⟨rfl, -⟩
      · exact hg.consumer_lt h
      · exact position_lt_size.mpr ha
    · rcases hedge h with h | ⟨-, rfl⟩
      · exact hg.provider_lt h
      · exact position_lt_size.mpr hb
    · rcases hedge h with h | ⟨rfl, rfl⟩
      · exact hg.ne h
      · exact fun heq => hold.1 ((position_inj ha).mp heq)
    · rintro ⟨hx, hy, h⟩
      rcases hedge h with h | ⟨hxa, hyb⟩
      · exact Or.inl ⟨hx, hy, h⟩
      · exact Or.inr ⟨(position_inj hx).mp hxa, (position_inj hy).mp hyb, hold.1⟩
    · rintro (⟨hx, hy, h⟩ | ⟨rfl, rfl, -⟩)
      · exact ⟨hx, hy, List.mem_append_left _ h⟩
      · exact ⟨ha, hb, List.mem_append_right _ (List.mem_singleton.mpr rfl)⟩

/-- Nothing is added by adding nothing. -/
theorem extends_self (hg : g.WellFormed) : g.Extends g fun _ _ => False :=
  ⟨hg, rfl, fun _ _ => by simp⟩

/-- **A graph built by a fold** requires what it required before and what the steps add. The steps
only need to be known on graphs with the nodes of the first one. -/
theorem foldl_extends {β : Type} {step : DependencyGraph α → β → DependencyGraph α}
    (added : β → α → α → Prop) (xs : List β) (hg : g.WellFormed)
    (hstep : ∀ h : DependencyGraph α, ∀ x ∈ xs, h.WellFormed → h.nodes = g.nodes →
      h.Extends (step h x) (added x)) :
    g.Extends (xs.foldl step g) fun a b => ∃ x ∈ xs, added x a b := by
  induction xs generalizing g with
  | nil => exact ⟨hg, rfl, fun _ _ => by simp⟩
  | cons x xs ih =>
    have hx := hstep g x (List.mem_cons_self ..) hg rfl
    have hrest := ih hx.wellFormed fun h y hy hwf hnodes =>
      hstep h y (List.mem_cons_of_mem _ hy) hwf (hnodes.trans hx.nodes)
    refine ⟨hrest.wellFormed, hrest.nodes.trans hx.nodes, fun a b => ?_⟩
    rw [List.foldl_cons, hrest.requires, hx.requires]
    simp only [List.mem_cons, exists_eq_or_imp]
    exact or_assoc

/-- Adding distinct new nodes one after the other puts them behind those that are there. -/
theorem foldl_addNode {xs : List α} (hnodup : xs.Nodup) (hnew : ∀ x ∈ xs, x ∉ g.nodes) :
    xs.foldl addNode g = ⟨g.nodes ++ xs, g.edges⟩ := by
  induction xs generalizing g with
  | nil => rw [List.append_nil]; rfl
  | cons x xs ih =>
    obtain ⟨hx, hnodup⟩ := List.nodup_cons.mp hnodup
    rw [List.foldl_cons, addNode_of_notMem (hnew x (List.mem_cons_self ..)), ih hnodup]
    · simp
    · intro y hy hmem
      rcases List.mem_append.mp hmem with hmem | hmem
      · exact hnew y (List.mem_cons_of_mem _ hy) hmem
      · exact hx (List.mem_singleton.mp hmem ▸ hy)

/-- **The graph of distinct nodes without dependencies.** -/
theorem foldl_addNode_empty {xs : List α} (hnodup : xs.Nodup) :
    xs.foldl addNode empty = ⟨xs, []⟩ := by
  rw [foldl_addNode hnodup fun _ _ => List.not_mem_nil]
  rfl

/-! ## Sorting by name -/

/-- A node stands in the list of names where its position stands in the list of positions. -/
theorem idxOf_nodesAt (hg : g.WellFormed) {order : List Nat} (hlt : ∀ i ∈ order, i < g.size)
    (ha : a ∈ g.nodes) : (g.nodesAt order).idxOf a = order.idxOf (g.position a) :=
  idxOf_filterMap_getElem? hg.nodup hlt ha

/-- **A sorted graph** holds every node once, and every node stands behind all that it requires. -/
theorem sort_eq_ok (hg : g.WellFormed) {names : List α} (h : g.sort = .ok names) :
    names.Perm g.nodes ∧ ∀ a b, g.Requires a b → names.idxOf b < names.idxOf a := by
  unfold sort at h
  split at h
  · rename_i order horder
    obtain rfl := Except.ok.inj h
    obtain ⟨hin, hperm⟩ := order?_spec horder
    refine ⟨?_, ?_⟩
    · rw [← nodesAt_range (g := g)]
      exact hperm.filterMap _
    · rintro a b ⟨ha, hb, hab⟩
      rw [idxOf_nodesAt hg hin.lt_size ha, idxOf_nodesAt hg hin.lt_size hb]
      have hmem := hperm.mem_iff.mpr (List.mem_range.mpr (position_lt_size.mpr ha))
      exact hin.idxOf_lt _ hmem _ hab
  · simp at h

/-- **A graph cannot be sorted exactly when nodes require each other in a ring.** -/
theorem sort_eq_error_iff (hg : g.WellFormed) :
    (∃ ring, g.sort = .error ring) ↔ Cyclic g.Requires := by
  rw [cyclic_requires_iff hg, ← order?_eq_none_iff hg]
  unfold sort
  cases g.order? <;> simp

end RtlFlow.DependencyGraph
