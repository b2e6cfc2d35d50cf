import RtlFlow.Catalog.Generics
import Mathlib.Data.List.Nodup

/-! # Generics on top of others

Generics that were given one after the other (`Built`) have each name once, so their names in order
and the values of the names are all there is to them (`Built.ext`). Merging appends the names that
are new, and the value of a name is the one on top where there is one (`names_mergedWith`,
`get?_mergedWith`). The laws of merging compare these two on both sides (`mergedWith_laws`). -/

namespace RtlFlow.Generics

variable {a b c g h : Generics} {name n : String} {value v : GenericValue}
  {entries : List (String × GenericValue)}

/-- **The names of generics**, in the order in which they were first given. -/
def names (g : Generics) : List String := g.entries.map Prod.fst

/-- **Generics that were given one after the other**, from none on. -/
inductive Built : Generics → Prop
  /-- None is given. -/
  | empty : Built empty
  /-- One more is given, or one is given again. -/
  | insert {g : Generics} (hg : Built g) (name : String) (value : GenericValue) :
      Built (g.insert name value)

@[simp] theorem names_empty : empty.names = [] := rfl

@[simp] theorem names_cons : names ⟨(n, v) :: entries⟩ = n :: names ⟨entries⟩ := rfl

@[simp] theorem get?_empty : empty.get? n = none := rfl

theorem get?_cons :
    get? ⟨(n, v) :: entries⟩ name = if n = name then some v else get? ⟨entries⟩ name := by
  by_cases hname : n = name <;> simp [get?, hname]

theorem insert_cons : insert ⟨(n, v) :: entries⟩ name value =
    if n = name then ⟨(n, value) :: entries⟩
    else ⟨(n, v) :: (insert ⟨entries⟩ name value).entries⟩ := by
  rw [insert, insertIn]
  split <;> rfl

/-! ## Giving a value to a name -/

/-- **A new name goes behind the others**, and one that is there stays in its place. -/
theorem names_insert (g : Generics) (name : String) (value : GenericValue) :
    (g.insert name value).names = if name ∈ g.names then g.names else g.names ++ [name] := by
  obtain ⟨entries⟩ := g
  induction entries with
  | nil => rfl
  | cons x entries ih =>
    obtain ⟨n, v⟩ := x
    rw [insert_cons]
    by_cases hname : n = name
    · simp [hname]
    · rw [if_neg hname, names_cons, ih]
      by_cases hmem : name ∈ names ⟨entries⟩
      · simp [hmem]
      · simp [hmem, Ne.symm hname]

/-- **A name has the value that it was given last**, and every other name the value that it had. -/
theorem get?_insert (g : Generics) (name : String) (value : GenericValue) (n : String) :
    (g.insert name value).get? n = if name = n then some value else g.get? n := by
  obtain ⟨entries⟩ := g
  induction entries with
  | nil => exact get?_cons
  | cons x entries ih =>
    obtain ⟨m, v⟩ := x
    rw [insert_cons]
    by_cases hm : m = name
    · rw [if_pos hm, get?_cons, get?_cons, hm]
      split <;> rfl
    · rw [if_neg hm, get?_cons, get?_cons, ih]
      by_cases hn : m = n
      · rw [if_pos hn, if_pos hn, if_neg fun heq => hm (hn.trans heq.symm)]
      · rw [if_neg hn, if_neg hn]

/-- A name that does not stand in the list has no value. -/
theorem get?_eq_none (h : name ∉ g.names) : g.get? name = none := by
  have hnone : g.entries.find? (fun x => x.1 == name) = none :=
    List.find?_eq_none.mpr fun x hx heq =>
      h (List.mem_map.mpr ⟨x, hx, by simpa using heq⟩)
  exact congrArg (Option.map Prod.snd) hnone

/-- **No name is given twice.** -/
theorem Built.nodup (hg : g.Built) : g.names.Nodup := by
  induction hg with
  | empty => exact List.nodup_nil
  | insert _ name value ih =>
    rw [names_insert]
    split
    · exact ih
    · rename_i hnew
      exact ih.append (List.nodup_singleton name) (by simpa using hnew)

/-- Generics that are given by a list are built. -/
theorem built_ofList (pairs : List (String × GenericValue)) : (ofList pairs).Built := by
  suffices h : ∀ g : Generics, g.Built → (pairs.foldl (fun g x => g.insert x.1 x.2) g).Built from
    h empty .empty
  induction pairs with
  | nil => exact fun g hg => hg
  | cons x pairs ih => exact fun g hg => ih _ (hg.insert x.1 x.2)

/-- **The names in order and their values** are all there is to generics without repetition. -/
theorem entries_eq (hg : g.names.Nodup) :
    g.entries = g.names.filterMap fun n => (g.get? n).map (n, ·) := by
  obtain ⟨entries⟩ := g
  induction entries with
  | nil => rfl
  | cons x entries ih =>
    obtain ⟨n, v⟩ := x
    obtain ⟨hn, hrest⟩ := List.nodup_cons.mp hg
    have hbehind : ∀ m ∈ names ⟨entries⟩,
        (get? ⟨(n, v) :: entries⟩ m).map (m, ·) = (get? ⟨entries⟩ m).map (m, ·) := by
      intro m hm
      have hne : n ≠ m := fun heq => hn (heq ▸ hm)
      rw [get?_cons, if_neg hne]
    rw [names_cons, List.filterMap_cons, get?_cons, if_pos rfl, List.filterMap_congr hbehind,
      ← ih hrest]
    rfl

/-- **Generics with the same names in order and the same values are equal.** -/
theorem Built.ext (hg : g.Built) (hh : h.Built) (hnames : g.names = h.names)
    (hget : ∀ n, g.get? n = h.get? n) : g = h := by
  have hentries : g.entries = h.entries := by
    rw [entries_eq hg.nodup, entries_eq hh.nodup, hnames, funext hget]
  cases g
  cases h
  exact congrArg mk hentries

/-! ## Merging -/

theorem mergedWith_cons (g : Generics) (n : String) (v : GenericValue)
    (entries : List (String × GenericValue)) :
    g.mergedWith ⟨(n, v) :: entries⟩ = (g.insert n v).mergedWith ⟨entries⟩ := rfl

/-- **Merging gives the overrides in turn**, so what is merged is built as well. -/
theorem Built.mergedWith (ha : a.Built) (b : Generics) : (a.mergedWith b).Built := by
  obtain ⟨entries⟩ := b
  induction entries generalizing a with
  | nil => exact ha
  | cons x entries ih => exact ih (ha.insert x.1 x.2)

/-- **The names that are new go behind the others**, in their own order. -/
theorem names_mergedWith (a : Generics) (hb : b.names.Nodup) :
    (a.mergedWith b).names = a.names ++ b.names.filter (· ∉ a.names) := by
  -- on the overrides, the first of which is given to the generics that they are merged into
  obtain ⟨entries⟩ := b
  induction entries generalizing a with
  | nil => exact (List.append_nil _).symm
  | cons x entries ih =>
    obtain ⟨n, v⟩ := x
    obtain ⟨hn, hrest⟩ := List.nodup_cons.mp hb
    rw [mergedWith_cons, ih _ hrest, names_insert, names_cons]
    by_cases hmem : n ∈ a.names
    · rw [if_pos hmem, List.filter_cons_of_neg (by simpa using hmem)]
    · -- the name stands no more among those behind it, so that it is new for none of them
      have hothers : ∀ m ∈ names ⟨entries⟩,
          decide (m ∉ a.names ++ [n]) = decide (m ∉ a.names) := by
        intro m hm
        have hne : m ≠ n := fun heq => hn (heq ▸ hm)
        simp [hne]
      rw [if_neg hmem, List.filter_cons_of_pos (by simpa using hmem),
        List.filter_congr hothers, List.append_assoc, List.singleton_append]

/-- **A name has the value on top**, where there is one, and else the one below. -/
theorem get?_mergedWith (a : Generics) (hb : b.names.Nodup) (n : String) :
    (a.mergedWith b).get? n = (b.get? n).or (a.get? n) := by
  obtain ⟨entries⟩ := b
  induction entries generalizing a with
  | nil => rfl
  | cons x entries ih =>
    obtain ⟨m, v⟩ := x
    obtain ⟨hm, hrest⟩ := List.nodup_cons.mp hb
    rw [mergedWith_cons, ih _ hrest, get?_insert, get?_cons]
    by_cases hn : m = n
    · -- the name is not given again behind this
      rw [if_pos hn, if_pos hn, get?_eq_none (hn ▸ hm), Option.none_or, Option.some_or]
    · rw [if_neg hn, if_neg hn]

/-- **The grouping of overrides does not matter**: neither for the order of the names nor for their
values. -/
theorem mergedWith_assoc (ha : a.Built) (hb : b.Built) (hc : c.Built) :
    (a.mergedWith b).mergedWith c = a.mergedWith (b.mergedWith c) := by
  have hbc := (hb.mergedWith c).nodup
  refine ((ha.mergedWith b).mergedWith c).ext (ha.mergedWith _) ?_ fun n => ?_
  · rw [names_mergedWith _ hc.nodup, names_mergedWith _ hbc, names_mergedWith _ hb.nodup,
      names_mergedWith _ hc.nodup, List.filter_append, List.filter_filter, List.append_assoc]
    congr 2
    -- a name is new behind the first two when neither of them has it
    refine List.filter_congr fun n _ => ?_
    by_cases hna : n ∈ a.names <;> simp [hna]
  · rw [get?_mergedWith _ hc.nodup, get?_mergedWith _ hbc, get?_mergedWith _ hb.nodup,
      get?_mergedWith _ hc.nodup, Option.or_assoc]

theorem empty_mergedWith (ha : a.Built) : empty.mergedWith a = a := by
  refine (Built.empty.mergedWith a).ext ha ?_ fun n => ?_
  · simp [names_mergedWith _ ha.nodup]
  · rw [get?_mergedWith _ ha.nodup, get?_empty, Option.or_none]

/-- Merging the same overrides again changes nothing. -/
theorem mergedWith_mergedWith_self (ha : a.Built) (hb : b.Built) :
    (a.mergedWith b).mergedWith b = a.mergedWith b := by
  refine ((ha.mergedWith b).mergedWith b).ext (ha.mergedWith b) ?_ fun n => ?_
  · have hnone : b.names.filter (· ∉ (a.mergedWith b).names) = [] := by
      rw [List.filter_eq_nil_iff, names_mergedWith _ hb.nodup]
      intro n hn
      by_cases hna : n ∈ a.names <;> simp [hn, hna]
    rw [names_mergedWith _ hb.nodup, hnone, List.append_nil]
  · rw [get?_mergedWith _ hb.nodup, get?_mergedWith _ hb.nodup]
    cases b.get? n <;> rfl

/-- **Generics are a monoid under merging**, in which what is on top wins and the names keep the
order in which they were first given. -/
theorem mergedWith_laws (ha : a.Built) (hb : b.Built) (hc : c.Built) :
    a.names.Nodup ∧ (a.mergedWith b).Built ∧
      (a.mergedWith b).names = a.names ++ b.names.filter (· ∉ a.names) ∧
      (∀ n, (a.mergedWith b).get? n = (b.get? n).or (a.get? n)) ∧
      (a.mergedWith b).mergedWith c = a.mergedWith (b.mergedWith c) ∧
      empty.mergedWith a = a ∧ a.mergedWith empty = a ∧
      (a.mergedWith b).mergedWith b = a.mergedWith b :=
  ⟨ha.nodup, ha.mergedWith b, names_mergedWith a hb.nodup, get?_mergedWith a hb.nodup,
    mergedWith_assoc ha hb hc, empty_mergedWith ha, rfl, mergedWith_mergedWith_self ha hb⟩

/-- The sizes of a memory. -/
def sizes : Generics := ofList [("width", .integer 8), ("depth", .integer 16)]

/-- A deep memory that is fast. -/
def deepFast : Generics := ofList [("depth", .integer 32), ("mode", .string "fast")]

/-- A narrow memory that is small. -/
def smallNarrow : Generics := ofList [("mode", .string "small"), ("width", .integer 4)]

/-- Some names are new and some are given again, and the two groupings agree. -/
theorem mergedWith_laws_overlap :
    (sizes.Built ∧ deepFast.Built ∧ smallNarrow.Built) ∧
      sizes.mergedWith deepFast =
        ofList [("width", .integer 8), ("depth", .integer 32), ("mode", .string "fast")] ∧
      (sizes.mergedWith deepFast).names =
        sizes.names ++ deepFast.names.filter (· ∉ sizes.names) ∧
      (sizes.mergedWith deepFast).get? "depth" = some (.integer 32) ∧
      sizes.mergedWith (deepFast.mergedWith smallNarrow) =
        ofList [("width", .integer 4), ("depth", .integer 32), ("mode", .string "small")] := by
  have hbuilt : sizes.Built ∧ deepFast.Built ∧ smallNarrow.Built :=
    ⟨built_ofList _, built_ofList _, built_ofList _⟩
  obtain ⟨-, -, hnames, hget, hassoc, -⟩ := mergedWith_laws hbuilt.1 hbuilt.2.1 hbuilt.2.2
  refine ⟨hbuilt, by decide +kernel, hnames, ?_, ?_⟩
  · rw [hget]
    decide +kernel
  · rw [← hassoc]
    decide +kernel

end RtlFlow.Generics
