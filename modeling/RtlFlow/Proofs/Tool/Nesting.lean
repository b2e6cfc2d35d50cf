import RtlFlow.Proofs.Tool.Insertion

/-! # Texts without braces in templates without nested ones

A text that is put into a template can make a key of what stands around it: the characters before it
end with an opening brace, and those behind it have the closing one. When no text has a brace of its
own, such a pair of the template holds the pair of the key that the text was put in for. So in a
template in which no pair of braces holds another one a key is found only where the template has it,
and none is left when all have their values. -/

namespace RtlFlow.Template

open RtlFlow.Text
open Alphabet (keys keyword)

/-! ## Pairs of braces -/

/-- Whether some pair of braces holds another one. `opened` stands for the braces that are open,
the last one first, and tells of each whether a pair was closed behind it. -/
def nestsFrom (opened : List Bool) : List Char → Bool
  | [] => false
  | c :: cs =>
    if c = '\x7b' then nestsFrom (false :: opened) cs
    else if c = '\x7d' then
      match opened with
      | [] => nestsFrom [] cs
      | holds :: opened => holds || nestsFrom (opened.modifyHead fun _ => true) cs
    else nestsFrom opened cs

/-- **A template in which a pair of braces holds another one.** A brace without its partner is no
pair. -/
def Nests (s : String) : Prop := nestsFrom [] s.toList = true

instance (s : String) : Decidable (Nests s) := inferInstanceAs (Decidable (_ = _))

/-- **A text without braces.** -/
def BraceFree (s : String) : Prop := '\x7b' ∉ s.toList ∧ '\x7d' ∉ s.toList

instance (s : String) : Decidable (BraceFree s) := inferInstanceAs (Decidable (_ ∧ _))

variable {opened : List Bool} {x y w : List Char}

theorem nestsFrom_cons_open : nestsFrom opened ('\x7b' :: y) = nestsFrom (false :: opened) y := by
  rw [nestsFrom.eq_def]
  rfl

theorem nestsFrom_cons_close {holds : Bool} : nestsFrom (holds :: opened) ('\x7d' :: y) =
    (holds || nestsFrom (opened.modifyHead fun _ => true) y) := by
  rw [nestsFrom, if_neg (by decide), if_pos rfl]

theorem nestsFrom_cons_other {c : Char} (hopen : c ≠ '\x7b') (hclose : c ≠ '\x7d') :
    nestsFrom opened (c :: y) = nestsFrom opened y := by
  rw [nestsFrom.eq_def]
  simp only [if_neg hopen, if_neg hclose]

/-- Characters that are no braces change nothing. -/
theorem nestsFrom_append_of_notMem (hopen : '\x7b' ∉ x) (hclose : '\x7d' ∉ x) :
    nestsFrom opened (x ++ y) = nestsFrom opened y := by
  induction x with
  | nil => rfl
  | cons c x ih =>
    rw [List.mem_cons, not_or] at hopen hclose
    rw [List.cons_append, nestsFrom_cons_other (Ne.symm hopen.1) (Ne.symm hclose.1),
      ih hopen.2 hclose.2]

/-- What does not nest does not nest behind its first character. -/
theorem exists_nestsFrom_tail {c : Char} (h : nestsFrom opened (c :: y) = false) :
    ∃ opened', nestsFrom opened' y = false := by
  by_cases hopen : c = '\x7b'
  · subst hopen
    exact ⟨_, nestsFrom_cons_open.symm.trans h⟩
  by_cases hclose : c = '\x7d'
  · subst hclose
    cases opened with
    | nil => exact ⟨[], by rwa [nestsFrom, if_neg hopen, if_pos rfl] at h⟩
    | cons holds opened =>
      rw [nestsFrom_cons_close, Bool.or_eq_false_iff] at h
      exact ⟨_, h.2⟩
  · exact ⟨_, (nestsFrom_cons_other hopen hclose).symm.trans h⟩

section Keys

variable {κ : Type} [Alphabet κ]

/-- **A key is a pair** of braces for what is open around it. -/
theorem nestsFrom_mark_append (k : κ) :
    nestsFrom opened (mark k ++ y) = nestsFrom (opened.modifyHead fun _ => true) y := by
  have hname : nestsFrom (false :: opened) ((keyword k).toList ++ ('\x7d' :: y)) =
      nestsFrom (false :: opened) ('\x7d' :: y) :=
    nestsFrom_append_of_notMem (Alphabet.open_notMem k (Alphabet.mem_keys k))
      (Alphabet.close_notMem k (Alphabet.mem_keys k))
  have hsplit : mark k ++ y = '\x7b' :: ((keyword k).toList ++ ('\x7d' :: y)) := by
    simp [mark, body]
  rw [hsplit, nestsFrom_cons_open, hname, nestsFrom_cons_close, Bool.false_or]

/-! ## What stands around a text that is put in -/

variable {value : κ → Option String} {ps : List (Piece κ)}

/-- The characters of the template of which the pieces were read. -/
abbrev source (ps : List (Piece κ)) : List Char := fill (fun _ => none) ps

theorem source_cons_char (c : Char) : source (.char c :: ps) = c :: source ps := rfl

theorem source_cons_key (k : κ) : source (.key k :: ps) = mark k ++ source ps := rfl

theorem fill_cons_char (c : Char) : fill value (.char c :: ps) = c :: fill value ps := rfl

theorem fill_cons_key_some {k : κ} {v : String} (h : value k = some v) :
    fill value (.key k :: ps) = v.toList ++ fill value ps := by
  rw [fill, List.flatMap_cons, Piece.text, h]
  rfl

theorem fill_cons_key_none {k : κ} (h : value k = none) :
    fill value (.key k :: ps) = mark k ++ fill value ps := by
  rw [fill, List.flatMap_cons, Piece.text, h]
  rfl

/-- Characters before one that they do not have go on behind the leading ones. -/
theorem exists_append_of_append_eq {c : Char} {v z : List Char} (hv : c ∉ v)
    (h : v ++ z = x ++ c :: y) : ∃ x', x = v ++ x' ∧ z = x' ++ c :: y := by
  rcases List.append_eq_append_iff.mp h with ⟨x', rfl, hz⟩ | ⟨v', rfl, hz⟩
  · exact ⟨x', rfl, hz⟩
  · cases v' with
    | nil => exact ⟨[], by simp, by simpa using hz.symm⟩
    | cons d v' =>
      obtain ⟨rfl, -⟩ := List.cons.inj hz
      exact absurd (by simp) hv

/-- **A closing brace behind a pair closes one that holds the pair**, unless another brace is opened
before it. -/
theorem nestsFrom_source_of_close (hfree : ∀ k v, value k = some v → BraceFree v)
    (hopen : '\x7b' ∉ x) (h : fill value ps = x ++ '\x7d' :: y) :
    nestsFrom (true :: opened) (source ps) = true := by
  induction ps generalizing x with
  | nil => simp [fill] at h
  | cons p ps ih =>
    cases p with
    | char c =>
      rw [fill_cons_char] at h
      rw [source_cons_char]
      by_cases hclose : c = '\x7d'
      · rw [hclose, nestsFrom_cons_close, Bool.true_or]
      cases x with
      | nil => exact absurd (List.cons.inj h).1 hclose
      | cons d x =>
        obtain ⟨rfl, hrest⟩ := List.cons.inj h
        rw [List.mem_cons, not_or] at hopen
        rw [nestsFrom_cons_other (Ne.symm hopen.1) hclose]
        exact ih hopen.2 hrest
    | key j =>
      rw [source_cons_key, nestsFrom_mark_append]
      cases hj : value j with
      | none =>
        -- the key stands where the closing brace should come first
        rw [fill_cons_key_none hj] at h
        cases x with
        | nil => exact absurd (List.cons.inj h).1 (by decide)
        | cons d x => exact absurd (List.cons.inj h).1 fun heq => hopen (heq ▸ by simp)
      | some v =>
        rw [fill_cons_key_some hj] at h
        obtain ⟨x', rfl, hrest⟩ := exists_append_of_append_eq (hfree j v hj).2 h
        exact ih (fun hmem => hopen (List.mem_append_right _ hmem)) hrest

/-- **A key whose brace is open is closed by the template itself.** -/
theorem isPrefix_source_of_isPrefix (hfree : ∀ k v, value k = some v → BraceFree v)
    (hopen : '\x7b' ∉ w) (hclose : '\x7d' ∉ w)
    (hnest : nestsFrom (false :: opened) (source ps) = false)
    (h : w ++ ['\x7d'] <+: fill value ps) : w ++ ['\x7d'] <+: source ps := by
  induction ps generalizing w with
  | nil => simp [fill] at h
  | cons p ps ih =>
    cases p with
    | char c =>
      rw [fill_cons_char] at h
      rw [source_cons_char] at hnest ⊢
      cases w with
      | nil =>
        rw [List.nil_append, List.cons_prefix_cons] at h ⊢
        exact ⟨h.1, List.nil_prefix⟩
      | cons d w =>
        rw [List.cons_append, List.cons_prefix_cons] at h ⊢
        obtain ⟨rfl, hrest⟩ := h
        rw [List.mem_cons, not_or] at hopen hclose
        rw [nestsFrom_cons_other (Ne.symm hopen.1) (Ne.symm hclose.1)] at hnest
        exact ⟨rfl, ih hopen.2 hclose.2 hnest hrest⟩
    | key j =>
      rw [source_cons_key, nestsFrom_mark_append] at hnest
      obtain ⟨y, hy⟩ := h
      rw [List.append_assoc, List.singleton_append] at hy
      cases hj : value j with
      | none =>
        rw [fill_cons_key_none hj] at hy
        cases w with
        | nil => exact absurd (List.cons.inj hy).1 (by decide)
        | cons d w => exact absurd (List.cons.inj hy).1 fun heq => hopen (heq ▸ by simp)
      | some v =>
        -- the brace would be closed behind the pair of the key
        rw [fill_cons_key_some hj] at hy
        obtain ⟨x', rfl, hrest⟩ := exists_append_of_append_eq (hfree j v hj).2 hy.symm
        have hopen' : '\x7b' ∉ x' := fun hmem => hopen (List.mem_append_right _ hmem)
        have hclosed := (nestsFrom_source_of_close hfree hopen' hrest : nestsFrom (true :: opened) _ = true)
        rw [List.modifyHead_cons, hclosed] at hnest
        cases hnest

/-! ## Keys stand only where the template has them -/

section Decided

variable [DecidableEq κ]

/-- **Keys that have values are gone, and the others stand where the template has them.** -/
theorem occurrences_fill (hfree : ∀ k v, value k = some v → BraceFree v)
    (hread : ∀ k, occurrences (mark k) (source ps) = ps.count (.key k))
    (hnest : nestsFrom opened (source ps) = false) (k : κ) :
    occurrences (mark k) (fill value ps) =
      if (value k).isSome then 0 else ps.count (.key k) := by
  induction ps generalizing opened with
  | nil => simp [fill, occurrences]
  | cons p ps ih =>
    have hle : ∀ j, ps.count (.key j) ≤ occurrences (mark j) (source ps) :=
      fun j => count_le_occurrences rfl
    cases p with
    | char c =>
      have hrest : ∀ j, ¬ mark j <+: c :: source ps ∧
          occurrences (mark j) (source ps) = ps.count (.key j) := by
        intro j
        have hj := hread j
        rw [source_cons_char, List.count_cons_of_ne (by simp)] at hj
        by_cases hlead : mark j <+: c :: source ps
        · rw [occurrences_cons_of_isPrefix hlead] at hj
          have := hle j
          omega
        · rw [occurrences_cons_of_not_isPrefix hlead] at hj
          exact ⟨hlead, hj⟩
      have hnot : ¬ mark k <+: c :: fill value ps := by
        intro hlead
        rw [mark, List.cons_prefix_cons] at hlead
        obtain ⟨rfl, hbody⟩ := hlead
        rw [source_cons_char, nestsFrom_cons_open] at hnest
        have hown := isPrefix_source_of_isPrefix hfree
          (Alphabet.open_notMem k (Alphabet.mem_keys k))
          (Alphabet.close_notMem k (Alphabet.mem_keys k)) hnest hbody
        exact (hrest k).1 (List.cons_prefix_cons.mpr ⟨rfl, hown⟩)
      obtain ⟨opened', hnest'⟩ := exists_nestsFrom_tail hnest
      rw [fill_cons_char, occurrences_cons_of_not_isPrefix hnot, List.count_cons_of_ne (by simp),
        ih (fun j => (hrest j).2) hnest']
    | key j =>
      have hrest : ∀ i, occurrences (mark i) (source ps) = ps.count (.key i) := by
        intro i
        have hi := hread i
        rw [source_cons_key, occurrences_mark_append, List.count_cons] at hi
        simp only [beq_iff_eq, Piece.key.injEq] at hi
        omega
      rw [source_cons_key, nestsFrom_mark_append] at hnest
      have hfill := ih hrest hnest
      cases hj : value j with
      | none =>
        rw [fill_cons_key_none hj, occurrences_mark_append, hfill, List.count_cons]
        by_cases hjk : j = k
        · simp [← hjk, hj, Nat.add_comm]
        · simp [hjk]
      | some v =>
        have hv := hfree j v hj
        rw [fill_cons_key_some hj, occurrences_append_of_notMem hv.1, hfill]
        by_cases hjk : j = k
        · simp [← hjk, hj]
        · rw [List.count_cons_of_ne (by simpa using hjk)]

variable {s : String}

/-- Keys that have values are gone from a template that does not nest braces. -/
theorem occurrences_fill_pieces (hfree : ∀ k v, value k = some v → BraceFree v) (hs : ¬ Nests s)
    (k : κ) : occurrences (mark k) (fill value (pieces s)) =
      if (value k).isSome then 0 else (pieces s : List (Piece κ)).count (.key k) := by
  have hsource : source (pieces s : List (Piece κ)) = s.toList := fill_pieces s
  have hread : ∀ j : κ, occurrences (mark j) (source (pieces s : List (Piece κ))) =
      (pieces s : List (Piece κ)).count (.key j) := by
    intro j
    rw [hsource]
    exact occurrences_eq_count_readFrom 0 (by simp) j
  exact occurrences_fill hfree hread (hsource ▸ Bool.eq_false_iff.mpr hs) k

/-- **No text without braces is mistaken for a key** in a template that does not nest braces. -/
theorem undisturbed_of_not_nests (hfree : ∀ k v, value k = some v → BraceFree v) (hs : ¬ Nests s)
    (k : κ) : Undisturbed value s k := by
  have honly : ∀ j v, only value (before k) j = some v → BraceFree v :=
    fun j v hv => hfree j v (only_eq_some hv).2
  rw [Undisturbed, occurrences_fill_pieces honly hs, only_before_self]
  rfl

/-- **No key is left** when those that the template has got their values. -/
theorem contains_substitute (hfree : ∀ k v, value k = some v → BraceFree v) (hs : ¬ Nests s)
    {k : κ} (hk : contains s (placeholder (keyword k)) = true → (value k).isSome = true) :
    contains (substitute value s) (placeholder (keyword k)) = false := by
  rw [Bool.eq_false_iff, ne_eq, contains_iff (by simp [toList_placeholder, mark]), substitute,
    toList_placeholder, String.toList_ofList, occurrences_fill_pieces hfree hs]
  split
  · simp
  · rename_i hvalue
    rw [List.count_pos_iff, ← contains_placeholder_iff]
    exact mt hk hvalue

end Decided

/-- A text without braces has no key. -/
theorem contains_eq_false_of_braceFree {s : String} (k : κ) (h : BraceFree s) :
    contains s (placeholder (keyword k)) = false := by
  have hnone : occurrences (mark k) (s.toList ++ []) = occurrences (mark k) [] :=
    occurrences_append_of_notMem h.1
  rw [List.append_nil] at hnone
  rw [Bool.eq_false_iff, ne_eq, contains_iff (by simp [toList_placeholder, mark]),
    toList_placeholder, hnone]
  simp [occurrences]

end Keys

end RtlFlow.Template
