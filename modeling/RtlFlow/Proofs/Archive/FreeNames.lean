import RtlFlow.Proofs.Archive.Bundles
import Mathlib.Data.Finset.Card
import Mathlib.Order.Bounds.Defs

/-! # The search for a free name

A file enters a bundle under its own name when that is free. Otherwise numbers are put behind the
stem, from one on, for as long as the name that is looked at is taken (`NameSearch.Ends`). The names
that are looked at are different, so no more of them are taken than there are taken names, and the
search ends at the first that is free (`freeName_search`). It is the name that `freeName` finds, and
with as few names as a number of 32 bits can tell apart the counter does not run over
(`NameSearch.Ends.narrow`). -/

namespace RtlFlow.Archive

variable {taken : Finset String} {names : List String} {name : String} {j k m n : Nat}

/-- **How far the search for a free name has come**, where `ν` are the numbers that are counted. -/
structure NameSearch (ν : Type) where
  /-- The number of names that were taken. -/
  number : ν
  /-- The name that is looked at. -/
  candidate : String
  deriving DecidableEq, Repr

namespace NameSearch

section Counter

variable {ν : Type} [OfNat ν 1] [Add ν] [ToString ν] {s t t' : NameSearch ν}

/-- The search begins at the name itself. -/
def start [OfNat ν 0] (name : String) : NameSearch ν := ⟨0, name⟩

/-- The search goes on at the name with the next number. -/
def next (name : String) (s : NameSearch ν) : NameSearch ν :=
  ⟨s.number + 1, marked name (toString (s.number + 1))⟩

/-- **The search ends** after so many turns, at the first name that is not taken. -/
inductive Ends (taken : Finset String) (name : String) : NameSearch ν → Nat → NameSearch ν → Prop
  /-- The name that is looked at is free. -/
  | free {s : NameSearch ν} (h : s.candidate ∉ taken) : Ends taken name s 0 s
  /-- The name that is looked at is taken. -/
  | turn {s t : NameSearch ν} {k : Nat} (h : s.candidate ∈ taken)
      (hrest : Ends taken name (s.next name) k t) : Ends taken name s (k + 1) t

/-- **The search ends in one way only.** -/
theorem Ends.unique (h : Ends taken name s k t) (h' : Ends taken name s j t') :
    j = k ∧ t' = t := by
  induction h generalizing j with
  | free hfree =>
    cases h' with
    | free => exact ⟨rfl, rfl⟩
    | turn htaken => exact absurd htaken hfree
  | turn htaken _ ih =>
    cases h' with
    | free hfree => exact absurd htaken hfree
    | turn _ hrest =>
      obtain ⟨rfl, rfl⟩ := ih hrest
      exact ⟨rfl, rfl⟩

theorem Ends.iff (h : Ends taken name s k t) (j : Nat) (t' : NameSearch ν) :
    Ends taken name s j t' ↔ j = k ∧ t' = t :=
  ⟨h.unique, fun ⟨hj, ht⟩ => hj ▸ ht ▸ h⟩

end Counter

/-- **The search at a number**: the name with that number is looked at. -/
def upTo (name : String) (n : Nat) : NameSearch Nat := ⟨n, numberedFile name n⟩

/-- A turn leads from one number to the next. -/
theorem next_upTo (name : String) (n : Nat) : (upTo name n).next name = upTo name (n + 1) := by
  rw [next, upTo, upTo, numberedFile_eq_marked name n.succ_ne_zero]

/-- **The search passes the names that are taken** and ends at the free one behind them. -/
theorem ends_upTo (hm : n + k = m) (htaken : ∀ j, n ≤ j → j < m → numberedFile name j ∈ taken)
    (hfree : numberedFile name m ∉ taken) :
    Ends taken name (upTo name n) k (upTo name m) := by
  -- on the turns: each leads one number nearer to the free name
  induction k generalizing n with
  | zero =>
    subst hm
    exact .free hfree
  | succ k ih =>
    have hrest : Ends taken name (upTo name (n + 1)) k (upTo name m) :=
      ih (by omega) fun j hj => htaken j (by omega)
    exact .turn (htaken n le_rfl (by omega)) (next_upTo name n ▸ hrest)

/-- The search with its number as a natural number. -/
def wide (s : NameSearch UInt32) : NameSearch Nat := ⟨s.number.toNat, s.candidate⟩

theorem wide_next {s : NameSearch UInt32} (h : s.number.toNat + 1 < UInt32.size) (name : String) :
    (s.next name).wide = s.wide.next name := by
  have hnumber : (s.number + 1).toNat = s.number.toNat + 1 := by
    rw [UInt32.toNat_add]
    exact Nat.mod_eq_of_lt h
  rw [wide, next, wide, next, ← hnumber]
  rfl

/-- **A search that counts in 32 bits** ends as one that counts in natural numbers, as long as the
counter does not run over. -/
theorem Ends.narrow {s : NameSearch UInt32} {t : NameSearch Nat}
    (h : Ends taken name s.wide k t) (hk : s.number.toNat + k < UInt32.size) :
    ∃ t' : NameSearch UInt32, t'.wide = t ∧ Ends taken name s k t' := by
  -- on the turns that are left, for which there is room in the counter
  induction k generalizing s with
  | zero =>
    cases h with
    | free hfree => exact ⟨s, rfl, .free hfree⟩
  | succ k ih =>
    cases h with
    | turn htaken hrest =>
      have hnext : (s.next name).wide = s.wide.next name := wide_next (by omega) name
      have hnumber : (s.next name).number.toNat = s.number.toNat + 1 := congrArg number hnext
      rw [← hnext] at hrest
      obtain ⟨t', ht', hends⟩ := ih hrest (by omega)
      exact ⟨t', ht', .turn htaken hends⟩

end NameSearch

/-! ## The first free name -/

/-- **A file enters a bundle under a name** when its artifact is copied there, and the name is taken
for the artifacts behind it. -/
def EntersAs (names : List String) (name entry : String) : Prop :=
  ∀ (bundle : Bundle) (artifact : Path) (rest : List Path), artifact.fileName? = some name →
    copyArtifacts names bundle (artifact :: rest) =
      (copyArtifact artifact (bundle.path.child entry) >>= fun copied =>
        copyArtifacts (entry :: names)
          (bundle.noted artifact (bundle.path.child entry) copied) rest)

theorem entersAs_freeName (names : List String) (name : String) :
    EntersAs names name (freeName names name) :=
  fun bundle _ rest hname => copyArtifacts_cons names bundle hname rest

open NameSearch

/-- **The first free name** for a file: its own when that is free, and otherwise the one with the
least number behind the stem. -/
structure FirstFree (taken : Finset String) (name : String) (k : Nat) (entry : String) : Prop where
  /-- It is free. -/
  free : entry ∉ taken
  /-- It is the name of the file when that is free. -/
  own : name ∉ taken → entry = name
  /-- It has the least number otherwise. -/
  least : name ∈ taken → ∃ stem ending, SplitsInto name stem ending ∧
    entry = stem ++ "_" ++ toString k ++ ending ∧
    IsLeast {n | 0 < n ∧ stem ++ "_" ++ toString n ++ ending ∉ taken} k

/-- The first of the numbered names that is free is such a name. -/
theorem firstFree_numberedFile (hfree : numberedFile name k ∉ taken)
    (htaken : ∀ j < k, numberedFile name j ∈ taken) :
    FirstFree taken name k (numberedFile name k) := by
  refine ⟨hfree, fun hname => ?_, fun hname => ?_⟩
  · have hzero : k = 0 := Nat.eq_zero_of_not_pos fun hpos => hname (htaken 0 hpos)
    rw [hzero, numberedFile, if_pos rfl]
  · have hne : k ≠ 0 := by
      rintro rfl
      exact hfree hname
    obtain ⟨stem, ending, hsplit, hnumbered⟩ := exists_numberedFile name
    refine ⟨stem, ending, hsplit, hnumbered k hne, ⟨Nat.pos_of_ne_zero hne, ?_⟩, ?_⟩
    · rwa [← hnumbered k hne]
    · rintro n ⟨hpos, hn⟩
      by_contra hlt
      rw [← hnumbered n hpos.ne'] at hn
      exact hn (htaken n (by omega))

/-- **The search for a free name ends**, after no more turns than there are taken names, at the
first free name. That is the one under which the file enters a bundle, and a counter of 32 bits
finds it too. -/
theorem freeName_search (taken : Finset String) (name : String) :
    ∃ k ≤ taken.card, ∃ entry, FirstFree taken name k entry ∧
      (∀ j t, Ends taken name (start name) j t ↔ j = k ∧ t = (⟨k, entry⟩ : NameSearch Nat)) ∧
      (∀ names : List String, names.toFinset = taken →
        freeName names name = entry ∧ EntersAs names name entry) ∧
      (taken.card < UInt32.size → ∃ t : NameSearch UInt32, t.wide = ⟨k, entry⟩ ∧
        Ends taken name (start name) k t) := by
  obtain ⟨k, hk, hfree, htaken⟩ := exists_first_free taken.toList name
  simp only [Finset.length_toList, Finset.mem_toList] at hk hfree htaken
  have hends : Ends taken name (start name) k (upTo name k) :=
    ends_upTo (Nat.zero_add k) (fun j _ => htaken j) hfree
  refine ⟨k, hk, numberedFile name k, firstFree_numberedFile hfree htaken, hends.iff, ?_, ?_⟩
  · rintro names rfl
    have hentry : freeName names name = numberedFile name k :=
      freeName_eq (hk.trans (List.toFinset_card_le names)) (by simpa using hfree)
        (by simpa using htaken)
    exact ⟨hentry, hentry ▸ entersAs_freeName names name⟩
  · intro hcard
    have hzero : (start name : NameSearch UInt32).number.toNat = 0 := rfl
    have hwide : Ends taken name (start name : NameSearch UInt32).wide k (upTo name k) := hends
    exact hwide.narrow (by omega)

/-- A dot file whose name is taken, and so is the first one with a number. -/
theorem freeName_search_profile :
    ".profile" ∈ ({"stdout.log", ".profile", ".profile_1"} : Finset String) ∧
      freeName ["stdout.log", ".profile", ".profile_1"] ".profile" = ".profile_2" ∧
      ∃ k ≤ 3, ∃ stem ending, SplitsInto ".profile" stem ending ∧
        ".profile_2" = stem ++ "_" ++ toString k ++ ending ∧
        ∃ t : NameSearch UInt32, t.wide = ⟨k, ".profile_2"⟩ ∧
          Ends {"stdout.log", ".profile", ".profile_1"} ".profile" (start ".profile") k t := by
  have hmem : ".profile" ∈ ({"stdout.log", ".profile", ".profile_1"} : Finset String) := by
    decide +kernel
  have hcard : ({"stdout.log", ".profile", ".profile_1"} : Finset String).card = 3 := by
    decide +kernel
  have hentry : freeName ["stdout.log", ".profile", ".profile_1"] ".profile" = ".profile_2" := by
    decide +kernel
  obtain ⟨k, hk, entry, hfirst, -, hnames, hword⟩ :=
    freeName_search {"stdout.log", ".profile", ".profile_1"} ".profile"
  obtain rfl : entry = ".profile_2" :=
    (hnames ["stdout.log", ".profile", ".profile_1"] (by decide +kernel)).1.symm.trans hentry
  obtain ⟨stem, ending, hsplit, heq, -⟩ := hfirst.least hmem
  exact ⟨hmem, hentry, k, hcard ▸ hk, stem, ending, hsplit, heq, hword (by rw [hcard]; decide)⟩

/-- A name need not have an extension, may begin with a point and may end in one. -/
example : ["Makefile", ".profile", "end."].map (freeName ["Makefile", ".profile", "end."]) =
    ["Makefile_1", ".profile_1", "end_1."] := by
  decide +kernel

end RtlFlow.Archive
