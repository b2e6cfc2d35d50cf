/-! # Sets of characters

A set of characters is kept as the ascending list of the code points at which membership changes.
`combine` merges two such lists under an operation on truth values, and `mem_combine` says that a
character is in the result just when the operation holds of its memberships: union, intersection,
difference and symmetric difference are the four cases that are used. No set holds a surrogate,
since `ofRanges` and `compl` cut every set down to the characters there are. -/

namespace RtlFlow

/-- **A set of characters**: a code point is inside when the number of bounds at or below it is
odd. -/
structure CharSet where
  /-- The code points at which membership changes. -/
  bounds : List Nat
  /-- The bounds ascend. -/
  ascending : bounds.Pairwise (· < ·)
  deriving DecidableEq, Repr

namespace CharSet

/-! ### Membership -/

/-- Whether a code point is inside, where `inside` holds before the first bound. -/
def within (inside : Bool) : List Nat → Nat → Bool
  | [], _ => inside
  | b :: bs, n => if n < b then inside else within (!inside) bs n

/-- Whether a code point is in a set. -/
def memCode (s : CharSet) (n : Nat) : Bool := within false s.bounds n

/-- **Whether a character is in a set.** -/
def mem (s : CharSet) (c : Char) : Bool := s.memCode c.toNat

/-- Below all bounds nothing has changed yet. -/
theorem within_of_lt {inside : Bool} {bs : List Nat} {n : Nat} (h : ∀ b ∈ bs, n < b) :
    within inside bs n = inside := by
  cases bs with
  | nil => rfl
  | cons b bs => simp [within, h b (by simp)]

/-! ### Merging -/

/-- The bounds `rest` with a bound `n` in front where the value changes there. -/
def change (before after : Bool) (n : Nat) (rest : List Nat) : List Nat :=
  if before = after then rest else n :: rest

/-- **The bounds of a combination**: `a` and `b` tell whether the two sets are entered before their
first bounds. -/
def merge (op : Bool → Bool → Bool) (a b : Bool) : List Nat → List Nat → List Nat
  | [], [] => []
  | x :: xs, [] => change (op a b) (op (!a) b) x (merge op (!a) b xs [])
  | [], y :: ys => change (op a b) (op a (!b)) y (merge op a (!b) [] ys)
  | x :: xs, y :: ys =>
    if x < y then change (op a b) (op (!a) b) x (merge op (!a) b xs (y :: ys))
    else if y < x then change (op a b) (op a (!b)) y (merge op a (!b) (x :: xs) ys)
    else change (op a b) (op (!a) (!b)) x (merge op (!a) (!b) xs ys)
termination_by xs ys => xs.length + ys.length

/-- A changed value adds at most its own bound. -/
theorem mem_change {before after : Bool} {n m : Nat} {rest : List Nat}
    (h : m ∈ change before after n rest) : m = n ∨ m ∈ rest := by
  unfold change at h
  split at h
  · exact .inr h
  · simpa using h

/-- Every bound of a combination is a bound of one of the sets. -/
theorem mem_merge {op : Bool → Bool → Bool} {a b : Bool} {xs ys : List Nat} {n : Nat}
    (h : n ∈ merge op a b xs ys) : n ∈ xs ∨ n ∈ ys := by
  fun_induction merge op a b xs ys <;> grind [mem_change]

/-- A bound below an ascending list may stand in front of it, changed or not. -/
theorem pairwise_change {before after : Bool} {n : Nat} {rest : List Nat}
    (low : ∀ m ∈ rest, n < m) (asc : rest.Pairwise (· < ·)) :
    (change before after n rest).Pairwise (· < ·) := by
  unfold change
  split
  · exact asc
  · exact List.pairwise_cons.2 ⟨low, asc⟩

/-- The bounds of a combination ascend. -/
theorem pairwise_merge {op : Bool → Bool → Bool} {a b : Bool} {xs ys : List Nat}
    (hx : xs.Pairwise (· < ·)) (hy : ys.Pairwise (· < ·)) :
    (merge op a b xs ys).Pairwise (· < ·) := by
  fun_induction merge op a b xs ys with
  | case1 => exact .nil
  | case2 a b x xs ih =>
    rw [List.pairwise_cons] at hx
    exact pairwise_change (fun m h => hx.1 m ((mem_merge h).resolve_right (by simp))) (ih hx.2 hy)
  | case3 a b y ys ih =>
    rw [List.pairwise_cons] at hy
    exact pairwise_change (fun m h => hy.1 m ((mem_merge h).resolve_left (by simp))) (ih hx hy.2)
  | case4 a b x xs y ys lt ih =>
    rw [List.pairwise_cons] at hx
    refine pairwise_change (fun m h => ?_) (ih hx.2 hy)
    rw [List.pairwise_cons] at hy
    grind [mem_merge h]
  | case5 a b x xs y ys _ gt ih =>
    rw [List.pairwise_cons] at hy
    refine pairwise_change (fun m h => ?_) (ih hx hy.2)
    rw [List.pairwise_cons] at hx
    grind [mem_merge h]
  | case6 a b x xs y ys _ _ ih =>
    rw [List.pairwise_cons] at hx hy
    refine pairwise_change (fun m h => ?_) (ih hx.2 hy.2)
    grind [mem_merge h]

/-- A code point below a bound that may change the value sees the value before it, and any other
the value behind it. -/
theorem within_change {before after : Bool} {n m : Nat} {rest : List Nat}
    (low : m < n → within after rest m = after) :
    within before (change before after n rest) m =
      if m < n then before else within after rest m := by
  unfold change
  split
  · next same => subst same; split <;> simp_all
  · next differ =>
    have flip : (!before) = after := by cases before <;> cases after <;> simp_all
    simp [within, flip]

/-- **Membership in a combination** is the operation on the memberships. -/
theorem within_merge (op : Bool → Bool → Bool) (a b : Bool) {xs ys : List Nat} (n : Nat)
    (hx : xs.Pairwise (· < ·)) (hy : ys.Pairwise (· < ·)) :
    within (op a b) (merge op a b xs ys) n = op (within a xs n) (within b ys n) := by
  fun_induction merge op a b xs ys with
  | case1 => rfl
  | case2 a b x xs ih =>
    rw [List.pairwise_cons] at hx
    have below : n < x → within (!a) xs n = !a :=
      fun h => within_of_lt fun m hm => Nat.lt_trans h (hx.1 m hm)
    rw [within_change (fun h => by rw [ih hx.2 hy, below h]; simp [within]), ih hx.2 hy]
    simp only [within]
    split <;> rfl
  | case3 a b y ys ih =>
    rw [List.pairwise_cons] at hy
    have below : n < y → within (!b) ys n = !b :=
      fun h => within_of_lt fun m hm => Nat.lt_trans h (hy.1 m hm)
    rw [within_change (fun h => by rw [ih hx hy.2, below h]; simp [within]), ih hx hy.2]
    simp only [within]
    split <;> rfl
  | case4 a b x xs y ys lt ih =>
    rw [List.pairwise_cons] at hx
    have below : n < x → within (!a) xs n = !a :=
      fun h => within_of_lt fun m hm => Nat.lt_trans h (hx.1 m hm)
    have other : n < x → within b (y :: ys) n = b := fun h => by simp [within, Nat.lt_trans h lt]
    rw [within_change (fun h => by rw [ih hx.2 hy, below h, other h]), ih hx.2 hy]
    by_cases h : n < x
    · simp [within, h, Nat.lt_trans h lt]
    · simp [within, h]
  | case5 a b x xs y ys _ gt ih =>
    rw [List.pairwise_cons] at hy
    have below : n < y → within (!b) ys n = !b :=
      fun h => within_of_lt fun m hm => Nat.lt_trans h (hy.1 m hm)
    have other : n < y → within a (x :: xs) n = a := fun h => by simp [within, Nat.lt_trans h gt]
    rw [within_change (fun h => by rw [ih hx hy.2, below h, other h]), ih hx hy.2]
    by_cases h : n < y
    · simp [within, h, Nat.lt_trans h gt]
    · simp [within, h]
  | case6 a b x xs y ys nlt ngt ih =>
    have same : y = x := by omega
    subst same
    rw [List.pairwise_cons] at hx hy
    have left : n < y → within (!a) xs n = !a :=
      fun h => within_of_lt fun m hm => Nat.lt_trans h (hx.1 m hm)
    have right : n < y → within (!b) ys n = !b :=
      fun h => within_of_lt fun m hm => Nat.lt_trans h (hy.1 m hm)
    rw [within_change (fun h => by rw [ih hx.2 hy.2, left h, right h]), ih hx.2 hy.2]
    simp only [within]
    split <;> rfl

/-! ### Operations -/

/-- **The combination of two sets** under an operation on memberships. -/
def combine (op : Bool → Bool → Bool) (s t : CharSet) : CharSet :=
  ⟨merge op false false s.bounds t.bounds, pairwise_merge s.ascending t.ascending⟩

/-- **A character is in a combination** just when the operation holds of its memberships. -/
theorem mem_combine {op : Bool → Bool → Bool} (h : op false false = false) (s t : CharSet)
    (c : Char) : (combine op s t).mem c = op (s.mem c) (t.mem c) := by
  have law := within_merge op false false c.toNat s.ascending t.ascending
  rw [h] at law
  exact law

/-- The set without a character. -/
def nothing : CharSet := ⟨[], .nil⟩

instance : Inhabited CharSet := ⟨nothing⟩

/-- The set of all characters: the code points that are no surrogates. -/
def all : CharSet := ⟨[0, 0xD800, 0xE000, 0x110000], by decide⟩

/-- The characters of either set. -/
def union (s t : CharSet) : CharSet := combine (· || ·) s t

/-- The characters of both sets. -/
def inter (s t : CharSet) : CharSet := combine (· && ·) s t

/-- The characters of the first set that are not in the second. -/
def diff (s t : CharSet) : CharSet := combine (fun a b => a && !b) s t

/-- The characters of just one of the sets. -/
def symmDiff (s t : CharSet) : CharSet := combine (fun a b => a != b) s t

/-- The characters outside a set. -/
def compl (s : CharSet) : CharSet := diff all s

/-- The characters of any of some sets. -/
def unions (ss : List CharSet) : CharSet := ss.foldl union nothing

/-! ### Ranges -/

/-- The bounds of ranges whose first code points ascend, from the range `lo` to `hi` on; ranges
that touch are joined. -/
def sweep (lo hi : Nat) : List (Nat × Nat) → List Nat
  | [] => [lo, hi + 1]
  | (a, b) :: rs =>
    if a ≤ hi + 1 then sweep lo (max hi b) rs else lo :: (hi + 1) :: sweep a (max a b) rs

/-- No swept bound lies below the first range. -/
theorem le_of_mem_sweep {lo hi n : Nat} {rs : List (Nat × Nat)} (h : lo ≤ hi)
    (mem : n ∈ sweep lo hi rs) : lo ≤ n := by
  fun_induction sweep lo hi rs <;> grind

/-- Swept bounds ascend. -/
theorem pairwise_sweep {lo hi : Nat} {rs : List (Nat × Nat)} (h : lo ≤ hi) :
    (sweep lo hi rs).Pairwise (· < ·) := by
  fun_induction sweep lo hi rs with
  | case1 lo hi => simp; omega
  | case2 lo hi a b rs _ ih => exact ih (by omega)
  | case3 lo hi a b rs far ih =>
    have above : ∀ n ∈ sweep a (max a b) rs, hi + 1 < n := fun n hn => by
      have := le_of_mem_sweep (by omega) hn
      omega
    simp only [List.pairwise_cons, List.mem_cons]
    exact ⟨fun n hn => by rcases hn with rfl | hn <;> grind, above, ih (by omega)⟩

/-- **The characters of some ranges**, which may overlap and come in any order. -/
def ofRanges (rs : List (Nat × Nat)) : CharSet :=
  match rs.mergeSort fun p q => p.1 ≤ q.1 with
  | [] => nothing
  | (a, b) :: rest => inter all ⟨sweep a (max a b) rest, pairwise_sweep (by omega)⟩

/-- The characters from one code point to another. -/
def range (first last : Nat) : CharSet := ofRanges [(first, last)]

/-- The set of one character. -/
def one (c : Char) : CharSet := range c.toNat c.toNat

/-- The set of the ASCII characters. -/
def ascii : CharSet := range 0 0x7F

/-- The ranges between bounds, two of which bound a range. -/
def rangesOf : List Nat → List (Nat × Nat)
  | a :: b :: rest => (a, b - 1) :: rangesOf rest
  | _ => []

/-- **The ranges of a set**, ascending and apart from each other. -/
def ranges (s : CharSet) : List (Nat × Nat) := rangesOf s.bounds

/-- Whether a set holds no character. -/
def isEmpty (s : CharSet) : Bool := s.bounds.isEmpty

/-- Whether all characters of a set are ASCII characters. -/
def isAscii (s : CharSet) : Bool := s.bounds.all (· ≤ 0x80)

/-- The character of a set that holds just one. -/
def sole? (s : CharSet) : Option Char :=
  match s.bounds with
  | [a, b] => if b = a + 1 then some (Char.ofNat a) else none
  | _ => none

end CharSet

end RtlFlow
