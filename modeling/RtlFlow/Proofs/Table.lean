import RtlFlow.Table
import Mathlib.Order.Basic
import Mathlib.Data.String.Basic

/-! # Laws of ordered tables

What is found in a table after a value was put in or a key taken out. The tables are kept in
ascending order, but none of these laws needs that: a lookup answers the first key that counts as
the one asked for, and a value is put in at or before the first such key. That the order is kept is
said behind them (`Ascending`); a table in order is the table of its own list (`ofList_eq_self`). -/

namespace RtlFlow.Table

variable {κ ι α : Type} {before : κ → κ → Bool} {key : κ → ι}

/-- **A comparison tells keys apart by their identity**: two keys neither of which comes before
the other are those with one identity. -/
def Identifies (before : κ → κ → Bool) (key : κ → ι) : Prop :=
  ∀ k l, sameKey before k l = true ↔ key k = key l

theorem Identifies.ne_of_before (h : Identifies before key) {k l : κ}
    (hlt : before k l = true) : key k ≠ key l := by
  intro heq
  have hsame := (h k l).mpr heq
  simp [sameKey, hlt] at hsame

/-- Keys with one identity have one value. -/
theorem get?_congr (h : Identifies before key) {k l : κ} (hkl : key k = key l)
    (t : List (κ × α)) : get? before k t = get? before l t := by
  have hsame : ∀ k', sameKey before k k' = sameKey before l k' := by
    intro k'
    rw [Bool.eq_iff_iff, h k k', h l k', hkl]
  simp only [get?, hsame]

section Lookup

variable [DecidableEq ι]

theorem get?_cons (h : Identifies before key) (k k' : κ) (v : α) (t : List (κ × α)) :
    get? before k ((k', v) :: t) = if key k = key k' then some v else get? before k t := by
  unfold get?
  by_cases hk : key k = key k'
  · have hsame := (h k k').mpr hk
    simp [hk, hsame]
  · have hsame := (h k k').not.mpr hk
    simp [hk, hsame]

/-- **After a value was put under a key, it is found there** and every other key has the value that
it had. -/
theorem get?_put (h : Identifies before key) (k l : κ) (v : α) (t : List (κ × α)) :
    get? before l (put before k v t) = if key l = key k then some v else get? before l t := by
  induction t with
  | nil => rw [put, get?_cons h]
  | cons x t ih =>
    obtain ⟨k', v'⟩ := x
    unfold put
    split
    · rw [get?_cons h]
    · rename_i hkk'
      split
      · rename_i hk'k
        have hne := h.ne_of_before hk'k
        rw [get?_cons h, get?_cons h, ih]
        by_cases hl : key l = key k'
        · simp [hl, hne]
        · simp [hl]
      · -- neither key comes before the other, so the value is put in place of the old one
        rename_i hk'k
        have heq : key k = key k' := (h k k').mp (by simp [sameKey, hkk', hk'k])
        rw [get?_cons h, get?_cons h, heq]
        split <;> rfl

/-- **After a key was taken out, it is not found** and every other key has the value that it
had. -/
theorem get?_erase (h : Identifies before key) (k l : κ) (t : List (κ × α)) :
    get? before l (erase before k t) = if key l = key k then none else get? before l t := by
  induction t with
  | nil => simp [erase, get?]
  | cons x t ih =>
    obtain ⟨k', v'⟩ := x
    unfold erase at ih ⊢
    rw [List.filter_cons]
    by_cases hk : key k = key k'
    · have hsame := (h k k').mpr hk
      rw [if_neg (by simp [hsame]), ih, get?_cons h, ← hk]
      split <;> rfl
    · have hsame := (h k k').not.mpr hk
      rw [if_pos (by simp [hsame]), get?_cons h, get?_cons h, ih]
      by_cases hl : key l = key k
      · simp [hl, hk]
      · simp [hl]

end Lookup

/-- A value that is found stands in the table. -/
theorem exists_mem_of_get? {k : κ} {v : α} {t : List (κ × α)} (h : get? before k t = some v) :
    ∃ x ∈ t, x.2 = v := by
  obtain ⟨x, hfind, hvalue⟩ := Option.map_eq_some_iff.mp h
  exact ⟨x, List.mem_of_find?_eq_some hfind, hvalue⟩

/-- **Texts as keys are told apart by themselves.** -/
theorem identifies_textBefore : Identifies textBefore (id : String → String) := by
  intro s t
  simp only [sameKey, textBefore, Bool.and_eq_true, Bool.not_eq_true', decide_eq_false_iff_not,
    id_eq, not_lt]
  exact ⟨fun h => le_antisymm h.2 h.1, fun h => ⟨h.ge, h.le⟩⟩

/-! ## Ascending keys -/

/-- **A comparison that is a strict order.** -/
structure IsStrict (before : κ → κ → Bool) : Prop where
  /-- No key comes before itself. -/
  irrefl : ∀ k, before k k = false
  /-- What comes before a key comes before those behind it. -/
  trans : ∀ {k l m}, before k l = true → before l m = true → before k m = true

/-- Of two keys only one comes before the other. -/
theorem IsStrict.asymm (h : IsStrict before) {k l : κ} (hlt : before k l = true) :
    before l k = false := by
  by_contra hgt
  have hself := h.trans hlt (by simpa using hgt)
  simp [h.irrefl k] at hself

/-- **A table whose keys ascend.** -/
def Ascending (before : κ → κ → Bool) (t : List (κ × α)) : Prop :=
  t.Pairwise fun x y => before x.1 y.1 = true

theorem ascending_nil : Ascending before ([] : List (κ × α)) := List.Pairwise.nil

/-- What stands in a table behind a value was put in is that value or stood there before. -/
theorem mem_put {k : κ} {v : α} {t : List (κ × α)} {x : κ × α} (h : x ∈ put before k v t) :
    x ∈ t ∨ x.2 = v := by
  induction t with
  | nil =>
    obtain rfl := List.mem_singleton.mp h
    exact Or.inr rfl
  | cons y t ih =>
    unfold put at h
    split at h
    · rcases List.mem_cons.mp h with rfl | h
      · exact Or.inr rfl
      · exact Or.inl h
    · split at h
      · rcases List.mem_cons.mp h with rfl | h
        · exact Or.inl (List.mem_cons_self ..)
        · exact (ih h).imp_left (List.mem_cons_of_mem _)
      · rcases List.mem_cons.mp h with rfl | h
        · exact Or.inr rfl
        · exact Or.inl (List.mem_cons_of_mem _ h)

/-- A key that comes before all keys of a table and a new one comes before all with the new one. -/
theorem before_of_mem_put {k l : κ} {v : α} {t : List (κ × α)} (hl : before l k = true)
    (ht : ∀ y ∈ t, before l y.1 = true) {x : κ × α} (hx : x ∈ put before k v t) :
    before l x.1 = true := by
  induction t with
  | nil =>
    obtain rfl := List.mem_singleton.mp hx
    exact hl
  | cons y t ih =>
    obtain ⟨hy, ht⟩ := List.forall_mem_cons.mp ht
    unfold put at hx
    split at hx
    · rcases List.mem_cons.mp hx with rfl | hx
      · exact hl
      · rcases List.mem_cons.mp hx with rfl | hx
        · exact hy
        · exact ht x hx
    · split at hx
      · rcases List.mem_cons.mp hx with rfl | hx
        · exact hy
        · exact ih ht hx
      · rcases List.mem_cons.mp hx with rfl | hx
        · exact hy
        · exact ht x hx

/-- **Putting a value in keeps the keys ascending.** -/
theorem Ascending.put (hb : IsStrict before) {t : List (κ × α)} (h : Ascending before t) (k : κ)
    (v : α) : Ascending before (Table.put before k v t) := by
  induction t with
  | nil => exact List.pairwise_singleton _ _
  | cons y t ih =>
    obtain ⟨hy, ht⟩ := List.pairwise_cons.mp h
    unfold Table.put
    split
    · rename_i hlt
      exact List.pairwise_cons.mpr ⟨List.forall_mem_cons.mpr
        ⟨hlt, fun z hz => hb.trans hlt (hy z hz)⟩, h⟩
    · split
      · rename_i hgt
        exact List.pairwise_cons.mpr ⟨fun z hz => before_of_mem_put hgt hy hz, ih ht⟩
      · -- the old key stays where it is
        exact List.pairwise_cons.mpr ⟨hy, ht⟩

/-- Taking a key out keeps the keys ascending. -/
theorem Ascending.erase {t : List (κ × α)} (h : Ascending before t) (k : κ) :
    Ascending before (Table.erase before k t) := h.filter _

/-- The table of a list is made by putting in its values one after the other. -/
theorem ofList_eq_foldl (before : κ → κ → Bool) (pairs : List (κ × α)) :
    ofList before pairs = pairs.foldl (fun t x => Table.put before x.1 x.2 t) [] := rfl

/-- The table of a list is ascending. -/
theorem ascending_ofList (hb : IsStrict before) (pairs : List (κ × α)) :
    Ascending before (ofList before pairs) := by
  suffices h : ∀ t : List (κ × α), Ascending before t →
      Ascending before (pairs.foldl (fun t x => Table.put before x.1 x.2 t) t) from
    ofList_eq_foldl before pairs ▸ h [] ascending_nil
  induction pairs with
  | nil => exact fun t ht => ht
  | cons x pairs ih => exact fun t ht => ih _ (ht.put hb x.1 x.2)

/-- A value of the table of a list is one of the list. -/
theorem exists_of_mem_ofList {pairs : List (κ × α)} {x : κ × α} (h : x ∈ ofList before pairs) :
    ∃ y ∈ pairs, y.2 = x.2 := by
  suffices hall : ∀ t : List (κ × α),
      x ∈ pairs.foldl (fun t x => Table.put before x.1 x.2 t) t →
        x ∈ t ∨ ∃ y ∈ pairs, y.2 = x.2 from
    (hall [] (ofList_eq_foldl before pairs ▸ h)).resolve_left List.not_mem_nil
  clear h
  induction pairs with
  | nil => exact fun t ht => Or.inl ht
  | cons z pairs ih =>
    intro t ht
    rcases ih _ ht with hput | ⟨y, hy, heq⟩
    · exact (mem_put hput).imp_right fun heq => ⟨z, List.mem_cons_self .., heq.symm⟩
    · exact Or.inr ⟨y, List.mem_cons_of_mem _ hy, heq⟩

/-- A value is put behind all keys that come before its own. -/
theorem put_eq_append (hb : IsStrict before) {k : κ} (v : α) {t : List (κ × α)}
    (h : ∀ x ∈ t, before x.1 k = true) : put before k v t = t ++ [(k, v)] := by
  induction t with
  | nil => rfl
  | cons x t ih =>
    obtain ⟨hx, ht⟩ := List.forall_mem_cons.mp h
    unfold put
    rw [if_neg (by simp [hb.asymm hx]), if_pos hx, ih ht]
    rfl

/-- **A table whose keys ascend is the table of its own list.** -/
theorem ofList_eq_self (hb : IsStrict before) {t : List (κ × α)} (h : Ascending before t) :
    ofList before t = t := by
  suffices hall : ∀ done rest : List (κ × α), Ascending before (done ++ rest) →
      rest.foldl (fun t x => Table.put before x.1 x.2 t) done = done ++ rest from
    (ofList_eq_foldl before t).trans (hall [] t h)
  intro done rest
  induction rest generalizing done with
  | nil => simp
  | cons x rest ih =>
    obtain ⟨k, v⟩ := x
    intro hall
    have hbefore : ∀ y ∈ done, before y.1 k = true := fun y hy =>
      (List.pairwise_append.mp hall).2.2 y hy (k, v) (List.mem_cons_self ..)
    rw [List.foldl_cons]
    dsimp only
    rw [put_eq_append hb v hbefore, ih _ (by simpa using hall)]
    simp

/-- The order of texts is strict. -/
theorem isStrict_textBefore : IsStrict textBefore where
  irrefl := by simp [textBefore]
  trans hst htu := by
    simp only [textBefore, decide_eq_true_eq] at hst htu ⊢
    exact hst.trans htu

end RtlFlow.Table
