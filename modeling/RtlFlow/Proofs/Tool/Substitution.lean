import RtlFlow.Proofs.Text.Replacement
import RtlFlow.Tool.Template
import Mathlib.Data.List.Nodup
import Mathlib.Data.List.TakeWhile
import Mathlib.Logic.Function.Basic

/-! # Substitution in templates

A template is read once into its pieces, which are characters and keys, and then all its keys can be
replaced at once (`substitute`): what is put in is not looked at again. To replace the keys one
after the other gives the same as long as each of them, when it is its turn, stands only where the
template has it (`Undisturbed`). -/

namespace RtlFlow.Template

open RtlFlow.Text

/-- **A set of keys**, which stand in a template between braces. -/
class Alphabet (κ : Type) where
  /-- All keys, in the order in which they are replaced. -/
  keys : List κ
  /-- The name of a key. -/
  keyword : κ → String
  /-- Every key is one of them. -/
  mem_keys : ∀ k, k ∈ keys
  /-- No two keys have one name. -/
  nodup_keywords : (keys.map keyword).Nodup
  /-- No name has an opening brace. -/
  open_notMem : ∀ k ∈ keys, '\x7b' ∉ (keyword k).toList
  /-- No name has a closing brace. -/
  close_notMem : ∀ k ∈ keys, '\x7d' ∉ (keyword k).toList

open Alphabet (keys keyword mem_keys nodup_keywords)

/-- **A piece of a template**: a character or a key. -/
inductive Piece (κ : Type) where
  /-- A character that belongs to no key. -/
  | char (c : Char)
  /-- A key. -/
  | key (k : κ)
  deriving DecidableEq, Repr

section Only

variable {κ : Type} [DecidableEq κ] {value : κ → Option String}

/-- The values of some keys only. -/
def only (value : κ → Option String) (ks : List κ) : κ → Option String := fun j =>
  if j ∈ ks then value j else none

theorem only_nil : only value [] = fun _ => none := by
  funext j
  simp [only]

theorem only_append_singleton {ks : List κ} {k : κ} :
    only value (ks ++ [k]) = Function.update (only value ks) k (value k) := by
  funext j
  by_cases hj : j = k
  · subst hj
    simp [only]
  · simp [only, hj]

theorem only_eq_some {ks : List κ} {k : κ} {v : String} (h : only value ks k = some v) :
    k ∈ ks ∧ value k = some v := by
  rw [only] at h
  split at h
  · rename_i hk
    exact ⟨hk, h⟩
  · cases h

end Only

variable {κ : Type} [Alphabet κ]

/-- The characters of a key between its braces and with the closing one. -/
def body (k : κ) : List Char := (keyword k).toList ++ ['\x7d']

/-- The characters of a key as it stands in a template. -/
def mark (k : κ) : List Char := '\x7b' :: body k

/-- The key with which characters begin. -/
def leadKey? (cs : List Char) : Option κ :=
  (keys : List κ).find? fun k => (dropLead? (mark k) cs).isSome

/-- The pieces of characters, of which the first `skip` belong to a key that was read. -/
def readFrom (skip : Nat) : List Char → List (Piece κ)
  | [] => []
  | c :: cs =>
    if skip = 0 then
      match (leadKey? (c :: cs) : Option κ) with
      | some k => .key k :: readFrom (body k).length cs
      | none => .char c :: readFrom 0 cs
    else readFrom (skip - 1) cs

/-- **The pieces of a template.** -/
def pieces (s : String) : List (Piece κ) := readFrom 0 s.toList

/-- The text of a piece; a key without a value stands as it is. -/
def Piece.text (value : κ → Option String) : Piece κ → List Char
  | .char c => [c]
  | .key k => match value k with
    | some v => v.toList
    | none => mark k

/-- The text of pieces, with the values of their keys. -/
def fill (value : κ → Option String) (ps : List (Piece κ)) : List Char :=
  ps.flatMap (Piece.text value)

/-- **A template with its keys replaced all at once.** -/
def substitute (value : κ → Option String) (s : String) : String :=
  String.ofList (fill value (pieces s))

/-- The keys that are replaced before `k`. -/
def before [DecidableEq κ] (k : κ) : List κ := (keys : List κ).takeWhile (· ≠ k)

/-- **No text is mistaken for a key**: when the keys before `k` have their values, `k` stands only
where the template has it. -/
def Undisturbed [DecidableEq κ] (value : κ → Option String) (s : String) (k : κ) : Prop :=
  occurrences (mark k) (fill (only value (before k)) (pieces s)) = (pieces s).count (.key k)

instance [DecidableEq κ] (value : κ → Option String) (s : String) (k : κ) :
    Decidable (Undisturbed value s k) := inferInstanceAs (Decidable (_ = _))

/-! ## Reading -/

theorem toList_placeholder (k : κ) : (placeholder (keyword k)).toList = mark k := by
  simp [placeholder, mark, body]

theorem open_notMem_body (k : κ) : '\x7b' ∉ body k := by
  simpa [body] using Alphabet.open_notMem k (mem_keys k)

/-- No key is the beginning of another one. -/
theorem eq_of_mark_isPrefix {k l : κ} {cs : List Char} (hk : mark k <+: cs) (hl : mark l <+: cs) :
    k = l := by
  -- the name is what stands before the first closing brace
  have hname : ∀ (j : κ) (x : List Char),
      (body j ++ x).takeWhile (· ≠ '\x7d') = (keyword j).toList := by
    intro j x
    have hall : ∀ c ∈ (keyword j).toList, (decide (c ≠ '\x7d')) = true := by
      intro c hc
      simpa using fun heq : c = '\x7d' => Alphabet.close_notMem j (mem_keys j) (heq ▸ hc)
    rw [body, List.append_assoc, List.takeWhile_append_of_pos hall]
    simp
  obtain ⟨x, rfl⟩ := hk
  obtain ⟨y, hy⟩ := hl
  have hbody : body l ++ y = body k ++ x := List.cons.inj hy |>.2
  have hwords := hname l y
  rw [hbody, hname k x] at hwords
  exact List.inj_on_of_nodup_map nodup_keywords (mem_keys k) (mem_keys l)
    (String.toList_inj.mp hwords)

theorem mark_isPrefix_of_leadKey? {cs : List Char} {k : κ} (h : leadKey? cs = some k) :
    mark k <+: cs := by
  unfold leadKey? at h
  have hfound := List.find?_some h
  exact isSome_dropLead?_iff.mp hfound

/-- The key with which characters begin is the one whose mark they begin with. -/
theorem leadKey?_eq_some_iff {cs : List Char} {k : κ} :
    leadKey? cs = some k ↔ mark k <+: cs := by
  refine ⟨mark_isPrefix_of_leadKey?, fun h => ?_⟩
  cases hfind : (leadKey? cs : Option κ) with
  | none =>
    have hnot := List.find?_eq_none.mp hfind k (mem_keys k)
    exact absurd (isSome_dropLead?_iff.mpr h) hnot
  | some j => rw [eq_of_mark_isPrefix (mark_isPrefix_of_leadKey? hfind) h]

/-- The pieces of characters, without values, are the characters. -/
theorem fill_readFrom (skip : Nat) (cs : List Char) :
    fill (fun _ : κ => none) (readFrom skip cs) = cs.drop skip := by
  induction cs generalizing skip with
  | nil => simp [readFrom, fill]
  | cons c cs ih =>
    rw [readFrom]
    cases skip with
    | zero =>
      rw [if_pos rfl]
      cases hlead : (leadKey? (c :: cs) : Option κ) with
      | none => simpa [fill, Piece.text] using ih 0
      | some k =>
        have hmark := leadKey?_eq_some_iff.mp hlead
        rw [mark, List.cons_prefix_cons] at hmark
        obtain ⟨rfl, hbody⟩ := hmark
        have hrest := ih (body k).length
        rw [fill] at hrest ⊢
        rw [List.flatMap_cons, hrest, Piece.text, mark, List.cons_append, List.drop_zero,
          ← List.prefix_iff_eq_append.mp hbody]
        simp
    | succ n => rw [if_neg (by simp), Nat.add_sub_cancel, ih, List.drop_succ_cons]

theorem fill_pieces (s : String) : fill (fun _ : κ => none) (pieces s) = s.toList :=
  fill_readFrom 0 s.toList

/-! ## Keys in a text -/

variable {k : κ}

/-- Characters without an opening brace add no key. -/
theorem occurrences_append_of_notMem {x y : List Char} (h : '\x7b' ∉ x) :
    occurrences (mark k) (x ++ y) = occurrences (mark k) y := by
  induction x with
  | nil => rfl
  | cons c x ih =>
    rw [List.mem_cons, not_or] at h
    have hnot : ¬ mark k <+: c :: (x ++ y) := fun hprefix =>
      h.1 (List.cons_prefix_cons.mp hprefix).1
    rw [List.cons_append, occurrences_cons_of_not_isPrefix hnot, ih h.2]

/-- A key in front counts when it is the one that is looked for. -/
theorem occurrences_mark_append [DecidableEq κ] (j : κ) (y : List Char) :
    occurrences (mark k) (mark j ++ y) =
      (if j = k then 1 else 0) + occurrences (mark k) y := by
  have hbody : occurrences (mark k) (body j ++ y) = occurrences (mark k) y :=
    occurrences_append_of_notMem (open_notMem_body j)
  have hlead : mark j <+: '\x7b' :: (body j ++ y) := ⟨y, rfl⟩
  show occurrences (mark k) ('\x7b' :: (body j ++ y)) = _
  split
  · rename_i hjk
    subst hjk
    rw [occurrences_cons_of_isPrefix hlead, hbody]
  · rename_i hjk
    have hnot : ¬ mark k <+: '\x7b' :: (body j ++ y) := fun h => hjk (eq_of_mark_isPrefix hlead h)
    rw [occurrences_cons_of_not_isPrefix hnot, hbody, Nat.zero_add]

/-- **A text that closes its braces**: behind each opening one a closing one comes. -/
def Closed (cs : List Char) : Prop := ∀ rest, '\x7b' :: rest <:+ cs → '\x7d' ∈ rest

/-- Characters that close their braces and have no key add none. -/
theorem occurrences_append_of_closed {x y : List Char} (hclosed : Closed x)
    (h : occurrences (mark k) x = 0) :
    occurrences (mark k) (x ++ y) = occurrences (mark k) y := by
  induction x with
  | nil => rfl
  | cons c x ih =>
    have hself : ¬ mark k <+: c :: x := fun hprefix => by
      rw [occurrences_cons_of_isPrefix hprefix] at h
      omega
    rw [occurrences_cons_of_not_isPrefix hself] at h
    have hrest : Closed x := fun rest hsuffix => hclosed rest (hsuffix.trans (List.suffix_cons c x))
    have hnot : ¬ mark k <+: c :: (x ++ y) := by
      intro hprefix
      rcases List.prefix_or_prefix_of_prefix hprefix (List.prefix_append (c :: x) y) with
        hle | hle
      · exact hself hle
      · -- the characters would end within the name of the key, with its brace open
        rw [mark, List.cons_prefix_cons] at hle
        obtain ⟨rfl, hname⟩ := hle
        have hclose := hclosed x (List.suffix_refl _)
        rw [body, List.prefix_concat_iff] at hname
        rcases hname with heq | hname
        · exact hself (by rw [mark, body, heq])
        · exact Alphabet.close_notMem k (mem_keys k) (hname.subset hclose)
    rw [List.cons_append, occurrences_cons_of_not_isPrefix hnot, ih hrest h]

variable [DecidableEq κ]

/-- **Reading misses no key**: a key occurs in characters as often as it is read. -/
theorem occurrences_eq_count_readFrom (skip : Nat) {cs : List Char}
    (hskip : '\x7b' ∉ cs.take skip) (k : κ) :
    occurrences (mark k) cs = (readFrom skip cs).count (.key k) := by
  induction cs generalizing skip with
  | nil => simp [readFrom, occurrences]
  | cons c cs ih =>
    rw [readFrom]
    cases skip with
    | zero =>
      rw [if_pos rfl]
      cases hlead : (leadKey? (c :: cs) : Option κ) with
      | none =>
        have hnot : ¬ mark k <+: c :: cs := fun h => by
          rw [leadKey?_eq_some_iff.mpr h] at hlead
          cases hlead
        rw [occurrences_cons_of_not_isPrefix hnot, ih 0 (by simp)]
        simp
      | some j =>
        have hmark := leadKey?_eq_some_iff.mp hlead
        have hbody : body j <+: cs := (List.cons_prefix_cons.mp hmark).2
        have hrest := ih (body j).length
          (by rw [← List.prefix_iff_eq_take.mp hbody]; exact open_notMem_body j)
        dsimp only
        rw [List.count_cons, ← hrest]
        by_cases hkj : j = k
        · subst hkj
          rw [occurrences_cons_of_isPrefix hmark]
          simp [Nat.add_comm]
        · have hnot : ¬ mark k <+: c :: cs := fun h => hkj (eq_of_mark_isPrefix hmark h)
          rw [occurrences_cons_of_not_isPrefix hnot]
          simp [hkj]
    | succ n =>
      rw [List.take_succ_cons, List.mem_cons, not_or] at hskip
      have hnot : ¬ mark k <+: c :: cs := fun h =>
        hskip.1 (List.cons_prefix_cons.mp h).1
      rw [if_neg (by simp), Nat.add_sub_cancel, occurrences_cons_of_not_isPrefix hnot, ih n hskip.2]

/-- A template contains the keys that are read in it. -/
theorem contains_placeholder_iff {s : String} {k : κ} :
    contains s (placeholder (keyword k)) = true ↔ .key k ∈ (pieces s : List (Piece κ)) := by
  rw [contains_iff (by simp [toList_placeholder, mark]), toList_placeholder,
    occurrences_eq_count_readFrom 0 (by simp), List.count_pos_iff]
  rfl

/-! ## One key after the other -/

variable {value : κ → Option String} {ps : List (Piece κ)}

/-- Keys that have no value yet occur in the text of the pieces. -/
theorem count_le_occurrences (hk : value k = none) :
    ps.count (.key k) ≤ occurrences (mark k) (fill value ps) := by
  induction ps with
  | nil => simp
  | cons p ps ih =>
    rw [fill, List.flatMap_cons]
    by_cases hp : p = .key k
    · subst hp
      have htext : Piece.text value (.key k) = mark k := by rw [Piece.text, hk]
      rw [htext, List.count_cons_self, occurrences_mark_append, if_pos rfl, Nat.add_comm]
      exact Nat.add_le_add_left ih 1
    · rw [List.count_cons_of_ne hp]
      exact ih.trans occurrences_le_append

/-- **One key is replaced**, where it stands only where the template has it. -/
theorem replaceFrom_fill (hk : value k = none)
    (h : occurrences (mark k) (fill value ps) = ps.count (.key k)) (v : String) :
    replaceFrom '\x7b' (body k) v.toList 0 (fill value ps) =
      fill (Function.update value k (some v)) ps := by
  induction ps with
  | nil => simp [fill, replaceFrom]
  | cons p ps ih =>
    have hcount : ps.count (.key k) ≤ occurrences (mark k) (fill value ps) :=
      count_le_occurrences hk
    have hrest : occurrences (mark k) (fill value ps) ≤
        occurrences (mark k) (p.text value ++ fill value ps) := occurrences_le_append
    have hsplit : ∀ f : κ → Option String, fill f (p :: ps) = p.text f ++ fill f ps :=
      fun f => List.flatMap_cons ..
    rw [hsplit] at h
    rw [hsplit, hsplit]
    by_cases hp : p = .key k
    · subst hp
      rw [List.count_cons_self] at h
      have htext : Piece.text value (.key k) = mark k := by rw [Piece.text, hk]
      have hnew : Piece.text (Function.update value k (some v)) (.key k) = v.toList := by
        rw [Piece.text, Function.update_self]
      rw [htext, occurrences_mark_append, if_pos rfl] at h
      rw [htext, hnew, mark, replaceFrom_lead, ih (by omega)]
    · -- a piece that is not the key adds no occurrence
      rw [List.count_cons_of_ne hp] at h
      have htext : Piece.text (Function.update value k (some v)) p = Piece.text value p := by
        cases p with
        | char c => rfl
        | key j =>
          have hj : j ≠ k := fun heq => hp (heq ▸ rfl)
          rw [Piece.text, Piece.text, Function.update_of_ne hj]
      have hadd : occurrences (mark k) (p.text value ++ fill value ps) =
          occurrences (mark k) (fill value ps) := by omega
      rw [replaceFrom_append hadd, htext, ih (by omega)]

/-- A key that the template does not have is not in the way. -/
theorem fill_update_of_notMem (h : .key k ∉ ps) (v : Option String) :
    fill (Function.update value k v) ps = fill value ps := by
  refine List.flatMap_congr fun p hp => ?_
  cases p with
  | char c => rfl
  | key j =>
    have hj : j ≠ k := fun heq => h (heq ▸ hp)
    rw [Piece.text, Piece.text, Function.update_of_ne hj]

/-- A key that is looked for at its turn is found when the template has it. -/
theorem contains_fill_iff
    (h : occurrences (mark k) (fill value ps) = ps.count (.key k)) :
    contains (String.ofList (fill value ps)) (placeholder (keyword k)) = true ↔ .key k ∈ ps := by
  rw [contains_iff (by simp [toList_placeholder, mark]), toList_placeholder, String.toList_ofList,
    h, List.count_pos_iff]

theorem replaceAll_fill (hk : value k = none)
    (h : occurrences (mark k) (fill value ps) = ps.count (.key k)) (v : String) :
    replaceAll (String.ofList (fill value ps)) (placeholder (keyword k)) v =
      String.ofList (fill (Function.update value k (some v)) ps) := by
  rw [← String.toList_inj, toList_replaceAll (toList_placeholder k), String.toList_ofList,
    String.toList_ofList, replaceFrom_fill hk h]

/-! ## All keys in turn -/

section Turns

variable {s : String} {done rest : List κ}

theorem only_keys : only value keys = value := by
  funext j
  rw [only, if_pos (mem_keys j)]

/-- Before the turn of a key it has no value. -/
theorem turn (value : κ → Option String) (h : (keys : List κ) = done ++ k :: rest) :
    before k = done ∧ only value done k = none := by
  have hnodup : (done ++ k :: rest).Nodup := h ▸ nodup_keywords.of_map
  have hk : k ∉ done := fun hmem => (List.nodup_append.mp hnodup).2.2 k hmem k (by simp) rfl
  constructor
  · have hall : ∀ j ∈ done, (decide (j ≠ k)) = true := by
      intro j hj
      simpa using fun heq : j = k => hk (heq ▸ hj)
    rw [before, h, List.takeWhile_append_of_pos hall]
    simp
  · rw [only, if_neg hk]

/-- Before its turn a key has no value. -/
theorem only_before_self (value : κ → Option String) (k : κ) : only value (before k) k = none := by
  have hk : k ∉ before k := fun hmem => by simpa using List.mem_takeWhile_imp hmem
  rw [only, if_neg hk]

/-- **Keys that have values are replaced in turn**, up to the last one. -/
theorem foldl_replaceAll {ks : List κ} (hkeys : (keys : List κ) = done ++ ks)
    (hvalue : ∀ k ∈ ks, (value k).isSome = true) (h : ∀ k ∈ ks, Undisturbed value s k) :
    ks.foldl (fun t k => replaceAll t (placeholder (keyword k)) ((value k).getD ""))
      (String.ofList (fill (only value done) (pieces s))) = substitute value s := by
  induction ks generalizing done with
  | nil =>
    rw [List.append_nil] at hkeys
    rw [List.foldl_nil, ← hkeys, only_keys, substitute]
  | cons k ks ih =>
    obtain ⟨hk, hvalue⟩ := List.forall_mem_cons.mp hvalue
    obtain ⟨hturn, h⟩ := List.forall_mem_cons.mp h
    obtain ⟨hbefore, hnone⟩ := turn value hkeys
    obtain ⟨v, hv⟩ := Option.isSome_iff_exists.mp hk
    rw [Undisturbed, hbefore] at hturn
    have hnext : (keys : List κ) = done ++ [k] ++ ks := by rw [hkeys, List.append_assoc]; rfl
    rw [List.foldl_cons, hv, Option.getD_some, replaceAll_fill hnone hturn, ← hv,
      ← only_append_singleton, ih hnext hvalue h]

/-- **A template all of whose keys have values**, with the keys replaced in turn. -/
theorem foldl_keys_eq (hvalue : ∀ k, (value k).isSome = true) (h : ∀ k, Undisturbed value s k) :
    (keys : List κ).foldl (fun t k => replaceAll t (placeholder (keyword k)) ((value k).getD "")) s =
      substitute value s := by
  have hkeys : (keys : List κ) = [] ++ keys := rfl
  have hall := foldl_replaceAll hkeys (fun k _ => hvalue k) fun k _ => h k
  rw [only_nil, fill_pieces, String.ofList_toList] at hall
  exact hall

end Turns

/-! ## Texts that close their braces -/

/-- **Where all texts close their braces, a key stands only where the template has it**, unless a
text that is put in before its turn has it. The template itself has no braces besides its keys. -/
theorem undisturbed_of_closed {s : String} (hplain : .char '\x7b' ∉ (pieces s : List (Piece κ)))
    (hclosed : ∀ i v, .key i ∈ (pieces s : List (Piece κ)) → value i = some v → Closed v.toList)
    (hlater : ∀ i v, .key i ∈ (pieces s : List (Piece κ)) → value i = some v →
      i ∈ before k → occurrences (mark k) v.toList = 0) : Undisturbed value s k := by
  have hnone := only_before_self value k
  unfold Undisturbed
  generalize (pieces s : List (Piece κ)) = ps at *
  induction ps with
  | nil => rfl
  | cons p ps ih =>
    rw [List.mem_cons, not_or] at hplain
    have hrest := ih hplain.2 (fun i v hi => hclosed i v (List.mem_cons_of_mem _ hi))
      (fun i v hi => hlater i v (List.mem_cons_of_mem _ hi))
    rw [fill] at hrest ⊢
    rw [List.flatMap_cons, List.count_cons, ← hrest]
    cases p with
    | char c =>
      have hc : '\x7b' ∉ [c] := by simpa using fun heq : '\x7b' = c => hplain.1 (by rw [heq])
      rw [Piece.text, occurrences_append_of_notMem hc]
      simp
    | key j =>
      cases hj : only value (before k) j with
      | none =>
        have hmark : Piece.text (only value (before k)) (.key j) = mark j := by rw [Piece.text, hj]
        rw [hmark, occurrences_mark_append, Nat.add_comm]
        simp
      | some v =>
        obtain ⟨hi, hv⟩ := only_eq_some hj
        have hne : j ≠ k := fun heq => by
          rw [heq, hnone] at hj
          cases hj
        have hmark : Piece.text (only value (before k)) (.key j) = v.toList := by
          rw [Piece.text, hj]
        rw [hmark, occurrences_append_of_closed (hclosed j v (by simp) hv)
          (hlater j v (by simp) hv hi)]
        simp [hne]

end RtlFlow.Template
