import RtlFlow.Plan.Counting
import RtlFlow.Proofs.Plan.StableOrder

/-! # Counting finds the arrangement

While a node is counted off at its consumers, the number that is kept for each of them is that of
its providers that are not done, and of those of its dependencies on the node that are still to be
counted off (`Tally.Counts`). So no count ever goes below zero, the nodes that can stand next are
those that are ready, and counting finds the arrangement (`counted?_eq_some`). -/

namespace RtlFlow

namespace Tally

@[simp] theorem mem_putAscending {i j : Nat} {row : List Nat} :
    j ∈ putAscending i row ↔ j = i ∨ j ∈ row := by
  induction row with
  | nil => simp [putAscending]
  | cons k row ih =>
    unfold putAscending
    split_ifs with hlt heq
    · simp
    · simp [heq]
    · simp only [List.mem_cons, ih]
      tauto

/-- A number that is put in its place leaves the list ascending. -/
theorem pairwise_putAscending {i : Nat} {row : List Nat} (h : row.Pairwise (· < ·)) :
    (putAscending i row).Pairwise (· < ·) := by
  induction row with
  | nil => exact List.pairwise_singleton _ _
  | cons k row ih =>
    obtain ⟨hk, hrow⟩ := List.pairwise_cons.mp h
    unfold putAscending
    split_ifs with hlt heq
    · refine List.pairwise_cons.mpr ⟨fun j hj => ?_, h⟩
      rcases List.mem_cons.mp hj with rfl | hj
      · exact hlt
      · exact hlt.trans (hk j hj)
    · exact h
    · refine List.pairwise_cons.mpr ⟨fun j hj => ?_, ih hrow⟩
      rcases mem_putAscending.mp hj with rfl | hj
      · omega
      · exact hk j hj

/-- **A tally that is right about a graph**, when the last node that was done is still to be counted
off at the nodes in `waiting`. -/
structure Counts {α : Type} (g : DependencyGraph α) (waiting : List Nat) (t : Tally) : Prop where
  /-- The nodes that are done are in order. -/
  inOrder : g.InOrder t.done
  /-- There is one count for each node. -/
  length : t.missing.length = g.size
  /-- It is that of the providers that are missing, and of what is still to be counted off. -/
  missing : ∀ i < g.size, t.missing[i]? =
    some ((g.providersOf i).countP (fun j => !t.done.contains j) + waiting.count i)
  /-- The nodes that can stand next are ascending. -/
  ascending : t.ready.Pairwise (· < ·)
  /-- They are those that are not done and for which nothing is missing. -/
  mem_ready : ∀ i, i ∈ t.ready ↔ i < g.size ∧ i ∉ t.done ∧ t.missing[i]? = some 0
  /-- No node that is done waits. -/
  waits : ∀ i ∈ waiting, i < g.size ∧ i ∉ t.done

variable {α : Type} {g : DependencyGraph α} {t : Tally} {waiting : List Nat}

/-- **A node at which another one is still to be counted off has a count above zero.** -/
theorem Counts.countOff {i : Nat} (h : t.Counts g (i :: waiting)) :
    ∃ t', t.countOff? i = some t' ∧ t'.done = t.done ∧ t'.Counts g waiting := by
  obtain ⟨hi, hnot⟩ := h.waits i (List.mem_cons_self ..)
  -- the count is one more than what is left, as the node itself waits
  obtain ⟨left, hleft⟩ : ∃ left, left =
      (g.providersOf i).countP (fun j => !t.done.contains j) + waiting.count i := ⟨_, rfl⟩
  have hcount : t.missing[i]? = some (left + 1) := by
    rw [h.missing i hi, List.count_cons_self, hleft]
    rfl
  have hlt : i < t.missing.length := h.length ▸ hi
  have hsame : (t.missing.set i left)[i]? = some left := by
    rw [List.getElem?_set_self hlt]
  have hother : ∀ j, j ≠ i → (t.missing.set i left)[j]? = t.missing[j]? := fun j hj =>
    List.getElem?_set_ne (Ne.symm hj)
  refine ⟨t.lower i left, by simp only [countOff?, hcount], rfl, h.inOrder, ?_, fun j hj => ?_, ?_,
    fun j => ?_, fun j hj => h.waits j (List.mem_cons_of_mem _ hj)⟩ <;> dsimp only [lower]
  · rw [List.length_set, h.length]
  · by_cases hji : j = i
    · rw [hji, hsame, hleft]
    · rw [hother j hji, h.missing j hj, List.count_cons_of_ne (Ne.symm hji)]
  · split
    · exact pairwise_putAscending h.ascending
    · exact h.ascending
  · by_cases hji : j = i
    · -- the node can stand next when this was its last provider
      subst hji
      have hold : j ∉ t.ready := fun hj => by
        have hzero := ((h.mem_ready j).mp hj).2.2
        simp [hcount] at hzero
      rw [hsame]
      split_ifs with hzero <;> simp [hi, hnot, hzero, hold]
    · rw [hother j hji, ← h.mem_ready]
      split_ifs <;> simp [hji]

/-- A node is counted off at all of its consumers. -/
theorem Counts.foldlM_countOff (h : t.Counts g waiting) :
    ∃ t', waiting.foldlM countOff? t = some t' ∧ t'.done = t.done ∧ t'.Counts g [] := by
  induction waiting generalizing t with
  | nil => exact ⟨t, rfl, rfl, h⟩
  | cons i waiting ih =>
    obtain ⟨t₁, hstep, hdone₁, h₁⟩ := h.countOff
    obtain ⟨t₂, hrest, hdone₂, h₂⟩ := ih h₁
    refine ⟨t₂, ?_, hdone₂.trans hdone₁, h₂⟩
    rw [List.foldlM_cons, hstep]
    exact hrest

end Tally

namespace DependencyGraph

variable {α : Type} {g : DependencyGraph α} {t : Tally}

@[simp] theorem mem_consumersOf {i j : Nat} : j ∈ g.consumersOf i ↔ g.DependsOn j i := by
  unfold consumersOf DependsOn
  simp only [List.mem_filterMap, Prod.exists, Option.ite_none_right_eq_some, Option.some.injEq]
  constructor
  · rintro ⟨c, p, hcp, rfl, rfl⟩
    exact hcp
  · intro h
    exact ⟨j, i, h, rfl, rfl⟩

/-- A node stands among the consumers of another one as often as that one among its providers. -/
theorem count_consumersOf (g : DependencyGraph α) (i j : Nat) :
    (g.consumersOf i).count j = (g.providersOf j).count i := by
  unfold consumersOf providersOf
  induction g.edges with
  | nil => rfl
  | cons e edges ih =>
    obtain ⟨c, p⟩ := e
    rw [List.filterMap_cons, List.filterMap_cons]
    by_cases hp : p = i <;> by_cases hc : c = j <;> simp [hp, hc, ih]

/-- What is missing without a node is missing with it, and as often as the node itself. -/
theorem countP_missing {done providers : List Nat} {i : Nat} (hnot : i ∉ done) :
    providers.countP (fun j => !done.contains j) =
      providers.countP (fun j => !(done ++ [i]).contains j) + providers.count i := by
  induction providers with
  | nil => rfl
  | cons j providers ih =>
    rw [List.countP_cons, List.countP_cons, List.count_cons, ih]
    by_cases hji : j = i
    · subst hji
      simp [hnot]
      omega
    · by_cases hj : j ∈ done <;> simp [hj, hji]
      omega

/-- A tally that is right tells which nodes are ready. -/
theorem isReady_iff_mem_ready (h : t.Counts g []) {i : Nat} :
    i ∈ t.ready ↔ i < g.size ∧ g.isReady t.done i = true := by
  rw [h.mem_ready, isReady_iff]
  refine and_congr_right fun hi => and_congr_right fun _ => ?_
  rw [h.missing i hi]
  simp

/-- **The first of the nodes that can stand next is the one that stands next.** -/
theorem next?_eq_head?_ready (h : t.Counts g []) : g.next? t.done = t.ready.head? := by
  cases hready : t.ready with
  | nil =>
    rw [List.head?_nil, next?, List.find?_eq_none]
    intro i hi hi'
    have hmem := (isReady_iff_mem_ready h).mpr ⟨List.mem_range.mp hi, hi'⟩
    simp [hready] at hmem
  | cons i rest =>
    have hascending := h.ascending
    rw [hready] at hascending
    obtain ⟨hi, hi'⟩ := (isReady_iff_mem_ready h).mp (hready ▸ List.mem_cons_self ..)
    rw [List.head?_cons, next?_eq_some_iff]
    refine ⟨hi, hi', fun j hj => ?_⟩
    -- a node before it that is ready would stand among those that can stand next
    by_contra hj'
    have hmem := (isReady_iff_mem_ready h).mpr ⟨hj.trans hi, by simpa using hj'⟩
    rw [hready] at hmem
    rcases List.mem_cons.mp hmem with rfl | hmem
    · exact lt_irrefl _ hj
    · exact absurd ((List.pairwise_cons.mp hascending).1 j hmem) (by omega)

/-- **The first node that can stand next is done**, and is still to be counted off at its
consumers. -/
theorem counts_append (hg : g.WellFormed) (h : t.Counts g []) {i : Nat} {rest : List Nat}
    (hready : t.ready = i :: rest) :
    Tally.Counts g (g.consumersOf i) { t with done := t.done ++ [i], ready := rest } := by
  obtain ⟨hi, hi'⟩ := (isReady_iff_mem_ready h).mp (hready ▸ List.mem_cons_self ..)
  have hnot := (isReady_iff.mp hi').1
  have hascending := h.ascending
  rw [hready] at hascending
  obtain ⟨hfirst, hrest⟩ := List.pairwise_cons.mp hascending
  refine ⟨h.inOrder.append hi hi', h.length, fun j hj => ?_, hrest, fun j => ?_, fun j hj => ?_⟩
  · rw [h.missing j hj, count_consumersOf, List.count_nil, Nat.add_zero, countP_missing hnot]
  · have hmem := h.mem_ready j
    rw [hready, List.mem_cons] at hmem
    by_cases hji : j = i
    · subst hji
      simp [show j ∉ rest from fun hj => lt_irrefl _ (hfirst j hj)]
    · simpa [hji] using hmem
  · have hji := mem_consumersOf.mp hj
    refine ⟨hg.consumer_lt hji, fun hmem => ?_⟩
    rcases List.mem_append.mp hmem with hmem | hmem
    · exact hnot (h.inOrder.provider_mem hmem hji)
    · exact hg.ne hji (List.mem_singleton.mp hmem)

/-- At the start nothing is done and all providers are missing. -/
theorem counts_tally (g : DependencyGraph α) : g.tally.Counts g [] where
  inOrder := inOrder_nil
  length := by simp [tally]
  missing i hi := by simp [tally, hi]
  ascending := List.pairwise_lt_range.filter _
  mem_ready i := by
    by_cases hi : i < g.size <;> simp [tally, hi]
  waits := by simp

/-- **Counting goes on as the arrangement does.** -/
theorem exists_count?_eq (hg : g.WellFormed) (fuel : Nat) (h : t.Counts g []) :
    ∃ t', g.count? fuel t = some t' ∧ t'.done = g.extend fuel t.done ∧ t'.Counts g [] := by
  induction fuel generalizing t with
  | zero => exact ⟨t, rfl, rfl, h⟩
  | succ fuel ih =>
    have hnext := next?_eq_head?_ready h
    unfold count? DependencyGraph.extend
    cases hready : t.ready with
    | nil =>
      rw [hready] at hnext
      rw [hnext]
      exact ⟨t, rfl, rfl, h⟩
    | cons i rest =>
      rw [hready] at hnext
      obtain ⟨t₁, hoff, hdone, h₁⟩ := (counts_append hg h hready).foldlM_countOff
      obtain ⟨t₂, hcount, hdone₂, h₂⟩ := ih h₁
      rw [hnext]
      refine ⟨t₂, ?_, by rw [hdone₂, hdone]; rfl, h₂⟩
      simp only [hoff, Option.bind_some, hcount]

/-- **Counting never fails**, and it finds the arrangement. -/
theorem counted?_eq_some (hg : g.WellFormed) : g.counted? = some g.arranged := by
  obtain ⟨t, hcount, hdone, -⟩ := exists_count?_eq hg g.size (counts_tally g)
  rw [counted?, hcount, Option.map_some, hdone]
  rfl

/-! ## Graphs that steps build -/

section Steps

variable [DecidableEq α] {steps : List (Step α)} {names : List α}

/-- A graph that steps have built is sorted when no names need each other in a ring. -/
theorem exists_sort_ofSteps_iff (steps : List (Step α)) :
    (∃ names, (ofSteps steps).sort = .ok names) ↔ ¬ Cyclic (Needs steps) := by
  have hbuilt := builds_ofSteps steps
  have hrequires : (ofSteps steps).Requires = Needs steps :=
    funext₂ fun a b => propext (hbuilt.requires a b)
  rw [← hrequires, ← sort_eq_error_iff hbuilt.wellFormed]
  cases (ofSteps steps).sort <;> simp

/-- The names come out in an order of the steps. -/
theorem orders_of_sort (h : (ofSteps steps).sort = .ok names) : Orders steps names := by
  have hbuilt := builds_ofSteps steps
  obtain ⟨hperm, hbefore⟩ := sort_eq_ok hbuilt.wellFormed h
  exact ⟨hbuilt.nodes ▸ hperm, fun a b hab => hbefore a b ((hbuilt.requires a b).mpr hab)⟩

/-- No order of the steps is less than the one that comes out. -/
theorem Orders.eq_or_lex {other : List α} (h : Orders steps other)
    (hsort : (ofSteps steps).sort = .ok names) :
    other = names ∨
      List.Lex (· < ·) (names.map (declared steps).idxOf) (other.map (declared steps).idxOf) := by
  have hbuilt := builds_ofSteps steps
  rw [← hbuilt.nodes]
  exact sort_eq_or_lex hbuilt.wellFormed hsort (hbuilt.nodes ▸ h.perm) fun a b hab =>
    h.idxOf_lt a b ((hbuilt.requires a b).mp hab)

/-- The names come out as they came up when that is an order of the steps: none is less. -/
theorem sort_eq_declared (h : Orders steps (declared steps)) :
    (ofSteps steps).sort = .ok (declared steps) := by
  have hbuilt := builds_ofSteps steps
  obtain ⟨names, hsort⟩ := (exists_sort_ofSteps_iff steps).mpr h.not_cyclic
  have hrow : (declared steps).map (declared steps).idxOf =
      List.range' 0 (ofSteps steps).size := by
    rw [← List.range_eq_range', ← map_position_nodes hbuilt.wellFormed, hbuilt.nodes]
    exact List.map_congr_left fun a _ => by rw [position, hbuilt.nodes]
  rcases h.eq_or_lex hsort with heq | hlex
  · rw [hsort, ← heq]
  · rw [hrow] at hlex
    have hperm := (orders_of_sort hsort).perm.map (declared steps).idxOf
    exact absurd hlex (not_lex_range' (hrow ▸ hperm))

/-- **A stable topological sort.** A graph that steps have built is sorted exactly when no different
names need each other in a ring. All names then come out, each behind all that it needs, and of all
such orders it is the one that is least by the places at which the names came up; so they come out
as they came up when that is such an order. To count off what is missing finds the same order, and
no count goes below zero. -/
theorem sort_ofSteps (steps : List (Step α)) :
    ((∃ names, (ofSteps steps).sort = .ok names) ↔ ¬ Cyclic (Needs steps)) ∧
      (∀ names, (ofSteps steps).sort = .ok names →
        Orders steps names ∧
          ∀ other, Orders steps other →
            other = names ∨
              List.Lex (· < ·) (names.map (declared steps).idxOf)
                (other.map (declared steps).idxOf)) ∧
      (Orders steps (declared steps) → (ofSteps steps).sort = .ok (declared steps)) ∧
      (ofSteps steps).counted? = some (ofSteps steps).arranged :=
  ⟨exists_sort_ofSteps_iff steps,
    fun _ hsort => ⟨orders_of_sort hsort, fun _ h => h.eq_or_lex hsort⟩,
    sort_eq_declared,
    counted?_eq_some (builds_ofSteps steps).wellFormed⟩

end Steps

end DependencyGraph

end RtlFlow
