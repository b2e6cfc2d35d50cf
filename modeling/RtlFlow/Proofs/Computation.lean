import Mathlib.Data.List.Forall2

/-! # Computations that may fail

What a computation made of others gives, told by what those give: one behind another
(`bind_eq_ok_iff`), and one for each item of a list (`mapM_eq_ok_iff`). -/

namespace RtlFlow

variable {ε α β : Type} {y : β} {xs : List α} {ys : List β}

/-- **One computation behind another** gives what the second one makes of what the first one gave.
-/
theorem bind_eq_ok_iff {x : Except ε α} {f : α → Except ε β} :
    x >>= f = .ok y ↔ ∃ a, x = .ok a ∧ f a = .ok y := by
  constructor
  · intro h
    cases x with
    | error e => cases h
    | ok a => exact ⟨a, rfl, h⟩
  · rintro ⟨a, rfl, h⟩
    exact h

/-- Computations that agree on the items of a list give the same in turn. -/
theorem mapM_congr {f g : α → Except ε β} (h : ∀ x ∈ xs, f x = g x) : xs.mapM f = xs.mapM g := by
  induction xs with
  | nil => rfl
  | cons x xs ih =>
    obtain ⟨hx, hxs⟩ := List.forall_mem_cons.mp h
    rw [List.mapM_cons, List.mapM_cons, hx, ih hxs]

/-- **Computations in turn** give one item for each item of the list. -/
theorem mapM_eq_ok_iff {f : α → Except ε β} :
    xs.mapM f = .ok ys ↔ List.Forall₂ (fun x y => f x = .ok y) xs ys := by
  induction xs generalizing ys with
  | nil =>
    rw [List.mapM_nil, List.forall₂_nil_left_iff]
    exact ⟨fun h => (Except.ok.inj h).symm, fun h => congrArg Except.ok h.symm⟩
  | cons x xs ih =>
    simp only [List.mapM_cons, bind_eq_ok_iff, List.forall₂_cons_left_iff, ← ih]
    constructor
    · rintro ⟨y, hy, rest, hrest, heq⟩
      exact ⟨y, rest, hy, hrest, (Except.ok.inj heq).symm⟩
    · rintro ⟨y, rest, hy, hrest, rfl⟩
      exact ⟨y, hy, rest, hrest, rfl⟩

/-- What was given at a place was given for what stands there. -/
theorem exists_getElem?_of_mapM {f : α → Except ε β} (h : xs.mapM f = .ok ys) {n : Nat}
    (hy : ys[n]? = some y) : ∃ x, xs[n]? = some x ∧ f x = .ok y := by
  obtain ⟨hlength, hall⟩ := List.forall₂_iff_get.mp (mapM_eq_ok_iff.mp h)
  obtain ⟨hn, rfl⟩ := List.getElem?_eq_some_iff.mp hy
  exact ⟨xs[n], List.getElem?_eq_getElem (hlength ▸ hn), hall n (hlength ▸ hn) hn⟩

end RtlFlow
