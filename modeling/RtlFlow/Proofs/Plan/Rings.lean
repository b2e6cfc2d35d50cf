import RtlFlow.Proofs.Plan.Counting
import Mathlib.Data.List.Cycle

/-! # The rings that are found

When a graph cannot be sorted, every node that is blocked waits for a node that is blocked as well,
so a walk from one to the next can only end at a node that it has passed
(`Walked.exists_comesBack`). The nodes from there on are a ring: they are distinct, each depends on
the next one, and the last one on the first. What is named to the user are the nodes of this ring,
in the order of their insertion (`ring_ofSteps`). -/

namespace RtlFlow.DependencyGraph

variable {α : Type} {g : DependencyGraph α}

/-! ## The blocked nodes -/

theorem mem_blocked {i : Nat} : i ∈ g.blocked ↔ i < g.size ∧ i ∉ g.arranged := by
  simp [blocked]

/-- **Every blocked node has a blocked provider**, and the first of these is found. -/
theorem exists_blockedProvider? (hg : g.WellFormed) {i : Nat} (hi : i ∈ g.blocked) :
    ∃ j ∈ g.blocked, g.DependsOn i j ∧ g.blockedProvider? g.blocked i = some j := by
  obtain ⟨hlt, hnot⟩ := mem_blocked.mp hi
  have hstuck : g.next? g.arranged = none := by
    rcases length_extend (g := g) g.size [] with hfull | hstuck
    · -- an arrangement of all nodes would hold this one
      have hlength : g.arranged.length = g.size := hfull.trans (Nat.zero_add _)
      have hperm := (inOrder_arranged (g := g)).perm_range hlength
      exact absurd (hperm.mem_iff.mpr (List.mem_range.mpr hlt)) hnot
    · exact hstuck
  obtain ⟨k, hik, hk⟩ := next?_eq_none hstuck hlt hnot
  have hk' : k ∈ g.blocked := mem_blocked.mpr ⟨hg.provider_lt hik, hk⟩
  cases hfind : g.blockedProvider? g.blocked i with
  | none =>
    have hnone := List.find?_eq_none.mp hfind k hk'
    exact absurd (mem_providersOf.mpr hik) (by simpa using hnone)
  | some j =>
    have hj := List.find?_some hfind
    exact ⟨j, List.mem_of_find?_eq_some hfind, mem_providersOf.mp (by simpa using hj), rfl⟩

/-- **The blocked nodes are those for which counting leaves something missing.** -/
theorem blocked_eq_filter_missing (hg : g.WellFormed) {t : Tally}
    (h : g.count? g.size g.tally = some t) :
    g.blocked = (List.range g.size).filter fun i => decide (0 < t.missing.getD i 0) := by
  obtain ⟨t', hcount, hdone, hright⟩ := exists_count?_eq hg g.size (counts_tally g)
  obtain rfl : t' = t := Option.some.inj (hcount.symm.trans h)
  have hdone' : t'.done = g.arranged := hdone
  refine List.filter_congr fun i hi => ?_
  have hlt := List.mem_range.mp hi
  have hmissing : t'.missing.getD i 0 =
      (g.providersOf i).countP fun j => !g.arranged.contains j := by
    rw [List.getD_eq_getElem?_getD, hright.missing i hlt, hdone']
    simp
  rw [hmissing, Bool.eq_iff_iff, decide_eq_true_eq, List.countP_pos_iff]
  simp only [mem_providersOf, Bool.not_eq_true', List.contains_eq_mem, decide_eq_false_iff_not]
  constructor
  · intro hnot
    obtain ⟨j, hj, hij, -⟩ := exists_blockedProvider? hg (mem_blocked.mpr ⟨hlt, hnot⟩)
    exact ⟨j, hij, (mem_blocked.mp hj).2⟩
  · rintro ⟨j, hij, hj⟩ hmem
    exact hj (inOrder_arranged.provider_mem hmem hij)

/-! ## The walk -/

/-- In a walk the node `i` is **followed** by its first blocked provider. -/
def FollowedBy (g : DependencyGraph α) (i j : Nat) : Prop :=
  g.blockedProvider? g.blocked i = some j

/-- **The nodes of a walk**, from the first blocked one on. -/
structure Walked (g : DependencyGraph α) (walked : List Nat) : Prop where
  /-- No node is passed twice. -/
  nodup : walked.Nodup
  /-- It begins at the first blocked node. -/
  start : walked.head? = g.blocked.head?
  /-- It goes from blocked node to blocked node. -/
  mem_blocked : ∀ i ∈ walked, i ∈ g.blocked
  /-- Each node is followed by its first blocked provider. -/
  follows : walked.IsChain g.FollowedBy

/-- **A walk that comes back**: its last node is followed by the node `back`, which it has passed.
`lead` are the nodes before that one, and `loop` those behind it. -/
structure ComesBack (g : DependencyGraph α) (lead : List Nat) (back : Nat) (loop : List Nat) :
    Prop where
  /-- The nodes are those of a walk. -/
  walked : g.Walked (lead ++ back :: loop)
  /-- The last node is followed by one of them. -/
  returns : (back :: loop ++ [back]).IsChain g.FollowedBy

variable {walked lead loop : List Nat} {back : Nat}

/-- A walk with the node by which its last node is followed. -/
theorem Walked.isChain_append (h : g.Walked (walked ++ [back])) {p : Nat}
    (hfollows : g.FollowedBy back p) : (walked ++ [back] ++ [p]).IsChain g.FollowedBy := by
  refine h.follows.append (List.isChain_singleton p) fun i hi j hj => ?_
  obtain rfl : back = i := by simpa using hi
  obtain rfl : p = j := by simpa using hj
  exact hfollows

/-- A walk goes on to a node that it has not passed. -/
theorem Walked.append (h : g.Walked (walked ++ [back])) {p : Nat} (hp : p ∈ g.blocked)
    (hfollows : g.FollowedBy back p) (hnew : p ∉ walked ++ [back]) :
    g.Walked (walked ++ [back] ++ [p]) := by
  refine ⟨?_, ?_, fun i hi => ?_, h.isChain_append hfollows⟩
  · refine List.nodup_append.mpr ⟨h.nodup, List.nodup_singleton p, ?_⟩
    rintro a ha b hb rfl
    exact hnew (List.mem_singleton.mp hb ▸ ha)
  · rw [← h.start]
    cases walked <;> rfl
  · rcases List.mem_append.mp hi with hi | hi
    · exact h.mem_blocked i hi
    · exact List.mem_singleton.mp hi ▸ hp

/-- A step of the walk, from a node to the one by which it is followed. -/
theorem walk_of_followedBy {i p : Nat} {path : List Nat} (h : g.FollowedBy i p) (fuel : Nat) :
    g.walk g.blocked (fuel + 1) (i :: path) =
      if p ∈ i :: path then (i :: path).takeWhile (· ≠ p) ++ [p]
      else g.walk g.blocked fuel (p :: i :: path) := by
  have hfollows : g.blockedProvider? g.blocked i = some p := h
  rw [walk, hfollows]
  simp

/-- **A walk comes back**: it passes no node twice, so it cannot be longer than the graph, and no
blocked node is without a blocked provider. -/
theorem Walked.exists_comesBack (hg : g.WellFormed) (fuel : Nat) (h : g.Walked walked)
    (hne : walked ≠ []) (hfuel : g.size < walked.length + fuel) :
    ∃ lead back loop, g.ComesBack lead back loop ∧
      g.walk g.blocked fuel walked.reverse = (back :: loop).reverse := by
  induction fuel generalizing walked with
  | zero =>
    have hle : walked.length ≤ (List.range g.size).length :=
      (List.subperm_of_subset h.nodup fun i hi =>
        List.mem_range.mpr (DependencyGraph.mem_blocked.mp (h.mem_blocked i hi)).1).length_le
    rw [List.length_range] at hle
    omega
  | succ fuel ih =>
    obtain ⟨front, i, rfl⟩ := (List.eq_nil_or_concat' walked).resolve_left hne
    obtain ⟨p, hp, -, hfollows⟩ :=
      exists_blockedProvider? hg (h.mem_blocked i (by simp))
    have hpath : (front ++ [i]).reverse = i :: front.reverse := by simp
    rw [hpath, walk_of_followedBy hfollows, ← hpath]
    by_cases hmem : p ∈ front ++ [i]
    · -- the walk has passed the node, and is cut off in front of it
      obtain ⟨lead, loop, hsplit⟩ := List.append_of_mem hmem
      have hnot : ∀ j ∈ loop.reverse, decide (j ≠ p) = true := by
        have hnodup := hsplit ▸ h.nodup
        have hloop := (List.nodup_cons.mp (List.nodup_append.mp hnodup).2.1).1
        intro j hj
        exact decide_eq_true fun heq => hloop (heq ▸ List.mem_reverse.mp hj)
      have hback := h.isChain_append hfollows
      rw [hsplit, List.append_assoc] at hback
      refine ⟨lead, p, loop, ⟨hsplit ▸ h, hback.right_of_append⟩, ?_⟩
      rw [if_pos (List.mem_reverse.mpr hmem), hsplit, List.reverse_append, List.reverse_cons,
        List.append_assoc, List.takeWhile_append_of_pos hnot]
      simp
    · -- the walk goes on
      have hlength : (front ++ [i] ++ [p]).length = (front ++ [i]).length + 1 := by simp
      obtain ⟨lead, back, loop, hcomes, hwalk⟩ :=
        ih (h.append hp hfollows hmem) (by simp) (by omega)
      refine ⟨lead, back, loop, hcomes, ?_⟩
      rw [if_neg (mt List.mem_reverse.mp hmem), ← hwalk]
      simp

/-- The walk from the first blocked node. -/
def walkFromStart (g : DependencyGraph α) : List Nat :=
  g.walk g.blocked (g.size + 1) g.blocked.head?.toList

/-- The ring is what the walk leaves, in ascending order. -/
theorem cyclePositions_eq (g : DependencyGraph α) :
    g.cyclePositions = g.walkFromStart.mergeSort (fun a b => a ≤ b) := by
  unfold cyclePositions walkFromStart
  cases g.blocked with
  | nil => simp [walk]
  | cons start rest => rfl

/-- **The ring is found by a walk that comes back**, unless the graph can be sorted. -/
theorem exists_walkFromStart_eq (hg : g.WellFormed) (h : g.order? = none) :
    ∃ lead back loop, g.ComesBack lead back loop ∧
      g.walkFromStart = (back :: loop).reverse := by
  cases hblocked : g.blocked with
  | nil =>
    -- all nodes would be in order
    have hall : ∀ i < g.size, i ∈ g.arranged := fun i hi => by
      by_contra hnot
      simpa [hblocked] using mem_blocked.mpr ⟨hi, hnot⟩
    have hle : (List.range g.size).length ≤ g.arranged.length :=
      (List.subperm_of_subset List.nodup_range fun i hi => hall i (List.mem_range.mp hi)).length_le
    have hge := (inOrder_arranged (g := g)).subperm_range.length_le
    rw [List.length_range] at hle hge
    simp [order?, Nat.le_antisymm hge hle] at h
  | cons start rest =>
    have hstart : g.Walked [start] := by
      refine ⟨List.nodup_singleton start, by rw [hblocked]; rfl, fun i hi => ?_,
        List.isChain_singleton start⟩
      rw [List.mem_singleton.mp hi, hblocked]
      exact List.mem_cons_self ..
    obtain ⟨lead, back, loop, hcomes, hwalk⟩ :=
      hstart.exists_comesBack hg (g.size + 1) (List.cons_ne_nil _ _) (by
        rw [List.length_singleton]
        omega)
    refine ⟨lead, back, loop, hcomes, ?_⟩
    rw [← hwalk, walkFromStart, hblocked]
    rfl

/-! ## The ring -/

theorem FollowedBy.dependsOn {i j : Nat} (h : g.FollowedBy i j) : g.DependsOn i j := by
  have hj := List.find?_some h
  exact mem_providersOf.mp (by simpa using hj)

namespace ComesBack

theorem nodup (h : g.ComesBack lead back loop) : (back :: loop).Nodup :=
  (List.nodup_append.mp h.walked.nodup).2.1

theorem lt_size (h : g.ComesBack lead back loop) : ∀ i ∈ back :: loop, i < g.size := fun i hi =>
  (mem_blocked.mp (h.walked.mem_blocked i (List.mem_append_right lead hi))).1

/-- No node depends on itself, so a ring has more than one. -/
theorem two_le_length (hg : g.WellFormed) (h : g.ComesBack lead back loop) :
    2 ≤ (back :: loop).length := by
  cases loop with
  | nil =>
    have hself : g.FollowedBy back back := List.isChain_pair.mp h.returns
    exact absurd rfl (hg.ne hself.dependsOn)
  | cons i loop => simp

/-- **Each node of the ring depends on the next one**, and the last one on the first. -/
theorem chain (h : g.ComesBack lead back loop) :
    Cycle.Chain g.DependsOn (back :: loop : List Nat) :=
  (Cycle.chain_coe_cons _ _ _).mpr (h.returns.imp fun _ _ hij => hij.dependsOn)

end ComesBack

/-! ## The names of a ring -/

variable {names : List α}

/-- **The names of a ring** are those of the nodes at which a walk has come back, in the order of
their insertion. -/
theorem exists_of_sort_error (hg : g.WellFormed) (h : g.sort = .error names) :
    ∃ lead back loop, g.ComesBack lead back loop ∧ g.walkFromStart = (back :: loop).reverse ∧
      names.Perm (g.nodesAt (back :: loop)) ∧ names.Sublist g.nodes := by
  have horder : g.order? = none := by
    unfold sort at h
    split at h
    · cases h
    · assumption
  obtain ⟨lead, back, loop, hcomes, hwalk⟩ := exists_walkFromStart_eq hg horder
  have hnames : names = g.nodesAt g.cyclePositions := by
    unfold sort at h
    rw [horder] at h
    exact (Except.error.inj h).symm
  have hperm : g.cyclePositions.Perm (back :: loop) := by
    rw [cyclePositions_eq, hwalk]
    exact (List.mergeSort_perm _ _).trans (List.reverse_perm _)
  refine ⟨lead, back, loop, hcomes, hwalk, hnames ▸ hperm.filterMap _, ?_⟩
  -- the positions are ascending, as the row of all positions is
  have hsorted : g.cyclePositions.Pairwise (· ≤ ·) := by
    rw [cyclePositions_eq]
    have htrans : ∀ i j k : Nat, decide (i ≤ j) = true → decide (j ≤ k) = true →
        decide (i ≤ k) = true := by
      simpa using fun _ _ _ => Nat.le_trans
    have htotal : ∀ i j : Nat, (decide (i ≤ j) || decide (j ≤ i)) = true := by
      simpa using Nat.le_total
    simpa using List.pairwise_mergeSort htrans htotal g.walkFromStart
  have hsub : g.cyclePositions.Subperm (List.range g.size) :=
    List.subperm_of_subset (hperm.nodup_iff.mpr hcomes.nodup) fun i hi =>
      List.mem_range.mpr (hcomes.lt_size i (hperm.subset hi))
  rw [hnames, ← nodesAt_range (g := g)]
  exact (List.sublist_of_subperm_of_pairwise hsub hsorted
    (List.pairwise_lt_range.imp Nat.le_of_lt)).filterMap _

/-- In a ring every element leads to every other one. -/
theorem transGen_of_chain {r : α → α → Prop} {ring : Cycle α} (h : ring.Chain r) {a b : α}
    (ha : a ∈ ring) (hb : b ∈ ring) : Relation.TransGen r a b :=
  Cycle.chain_iff_pairwise.mp (h.imp fun _ _ => Relation.TransGen.single) a ha b hb

section Steps

variable [DecidableEq α]

/-- **The nodes of a ring require each other in turn.** -/
theorem ComesBack.chain_nodesAt (hg : g.WellFormed) (h : g.ComesBack lead back loop) :
    Cycle.Chain g.Requires (g.nodesAt (back :: loop) : List α) := by
  have hpositions : Cycle.map g.position (g.nodesAt (back :: loop) : List α) =
      (back :: loop : List Nat) := by
    rw [Cycle.map_coe, map_position_nodesAt hg h.lt_size]
  have hchain := h.chain
  rw [← hpositions, Cycle.chain_map] at hchain
  -- only nodes have positions between which there is an edge
  exact hchain.imp fun a b hab =>
    ⟨position_lt_size.mp (hg.consumer_lt hab), position_lt_size.mp (hg.provider_lt hab), hab⟩

theorem ComesBack.nodup_nodesAt (hg : g.WellFormed) (h : g.ComesBack lead back loop) :
    (g.nodesAt (back :: loop)).Nodup := by
  refine List.Nodup.of_map g.position ?_
  rw [map_position_nodesAt hg h.lt_size]
  exact h.nodup

/-- **Rings that are named are real.** When a graph that steps have built cannot be sorted, at least
two different names are given, in the order in which they came up. Put in a row, each of them needs
the next one, and the last one needs the first; so a name that does not need itself through others
is never among them. They are found by counting and walking: counting leaves something missing for
the blocked nodes, each of these is followed by a blocked node, and the walk from the first one
comes back to a node that it has passed, where the ring begins. -/
theorem ring_ofSteps (steps : List (Step α)) (names : List α)
    (h : (ofSteps steps).sort = .error names) :
    2 ≤ names.length ∧ names.Nodup ∧ names.Sublist (declared steps) ∧
      (∃ ring : Cycle α, ring.Nodup ∧ ring.Chain (Needs steps) ∧ ring.toMultiset = names) ∧
      (∀ a, ¬ Relation.TransGen (Needs steps) a a → a ∉ names) ∧
      (∃ t, (ofSteps steps).count? (ofSteps steps).size (ofSteps steps).tally = some t ∧
        (ofSteps steps).blocked =
          (List.range (ofSteps steps).size).filter fun i => 0 < t.missing.getD i 0) ∧
      (∀ i ∈ (ofSteps steps).blocked, ∃ j ∈ (ofSteps steps).blocked,
        (ofSteps steps).FollowedBy i j) ∧
      ∃ lead back loop, (ofSteps steps).ComesBack lead back loop ∧
        (ofSteps steps).walkFromStart = (back :: loop).reverse ∧
        names.Perm ((ofSteps steps).nodesAt (back :: loop)) := by
  have hbuilt := builds_ofSteps steps
  have hg := hbuilt.wellFormed
  have hrequires : (ofSteps steps).Requires = Needs steps :=
    funext₂ fun a b => propext (hbuilt.requires a b)
  obtain ⟨lead, back, loop, hcomes, hwalk, hperm, hsub⟩ := exists_of_sort_error hg h
  have hchain := hrequires ▸ hcomes.chain_nodesAt hg
  have hnodup := hcomes.nodup_nodesAt hg
  have hlength : names.length = (back :: loop).length := by
    rw [hperm.length_eq, ← List.length_map (f := (ofSteps steps).position),
      map_position_nodesAt hg hcomes.lt_size]
  refine ⟨hlength ▸ hcomes.two_le_length hg, hperm.nodup_iff.mpr hnodup, hbuilt.nodes ▸ hsub,
    ⟨_, Cycle.nodup_coe_iff.mpr hnodup, hchain, ?_⟩, fun a hnot ha => ?_, ?_, fun i hi => ?_,
    lead, back, loop, hcomes, hwalk, hperm⟩
  · rw [Cycle.coe_toMultiset, Multiset.coe_eq_coe]
    exact hperm.symm
  · exact hnot (transGen_of_chain hchain (hperm.subset ha) (hperm.subset ha))
  · obtain ⟨t, hcount, -⟩ := exists_count?_eq hg (ofSteps steps).size (counts_tally (ofSteps steps))
    exact ⟨t, hcount, blocked_eq_filter_missing hg hcount⟩
  · obtain ⟨j, hj, -, hfollows⟩ := exists_blockedProvider? hg hi
    exact ⟨j, hj, hfollows⟩

/-- Steps in which three names need each other in a ring, one needs the ring, and one needs none. -/
def ringWithFollower : List (Step String) :=
  [.node "root", .dependency "a" "b", .dependency "b" "c", .dependency "c" "a",
    .dependency "d" "a"]

/-- The ring is named without the name that only needs it. -/
theorem ring_ringWithFollower :
    (ofSteps ringWithFollower).sort = .error ["a", "b", "c"] ∧
      ∃ ring : Cycle String, ring.Nodup ∧ ring.Chain (Needs ringWithFollower) ∧
        ring.toMultiset = ["a", "b", "c"] := by
  have h : (ofSteps ringWithFollower).sort = .error ["a", "b", "c"] := by cbv
  exact ⟨h, (ring_ofSteps ringWithFollower _ h).2.2.2.1⟩

end Steps

end RtlFlow.DependencyGraph
