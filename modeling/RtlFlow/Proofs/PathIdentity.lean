import RtlFlow.Catalog.Basic
import RtlFlow.Proofs.Table

/-! # When two paths are one

Tables of paths tell them apart by their components, whatever text they were written in. For a path
that was normalised the text follows from the components, so two normalised paths are one key only
when they are equal. -/

namespace RtlFlow

namespace Text

/-- A text is cut where its list of characters is split, the piece at hand in front. -/
theorem piecesAt_eq_modifyHead (sep : Char) (piece cs : List Char) :
    piecesAt sep piece cs = (cs.splitOn sep).modifyHead (piece.reverse ++ ·) := by
  induction cs generalizing piece with
  | nil => simp [piecesAt]
  | cons c cs ih =>
    rw [piecesAt, List.splitOn_cons_eq_if_modifyHead]
    by_cases h : c = sep
    · rw [if_pos h, if_pos (by simpa using h), ih]
      cases cs.splitOn sep <;> simp
    · rw [if_neg h, if_neg (by simpa using h), ih, List.modifyHead_modifyHead]
      congr 1
      funext l
      simp

/-- The pieces of a text are those at which its list of characters is split. -/
theorem piecesAt_nil_eq_splitOn (sep : Char) (cs : List Char) :
    piecesAt sep [] cs = cs.splitOn sep := by
  rw [piecesAt_eq_modifyHead]
  cases cs.splitOn sep <;> simp

/-- Texts without the separator are the pieces of their row. -/
theorem piecesAt_intercalate {sep : Char} {texts : List String} (hne : texts ≠ [])
    (hsep : ∀ s ∈ texts, sep ∉ s.toList) :
    piecesAt sep [] ((String.singleton sep).intercalate texts).toList =
      texts.map String.toList := by
  rw [piecesAt_nil_eq_splitOn, String.toList_intercalate, String.toList_singleton,
    List.splitOn_intercalate sep (by simpa using hsep) (by simpa using hne)]

/-- Texts are those of their characters. -/
theorem map_ofList_map_toList (texts : List String) :
    (texts.map String.toList).map String.ofList = texts := by
  simp [Function.comp_def]

/-- No piece of a text holds the separator. -/
theorem notMem_of_mem_piecesAt {sep : Char} {piece : List Char} (hpiece : sep ∉ piece)
    (cs : List Char) : ∀ l ∈ piecesAt sep piece cs, sep ∉ l := by
  induction cs generalizing piece with
  | nil => simpa [piecesAt] using hpiece
  | cons c cs ih =>
    unfold piecesAt
    split
    · simpa [hpiece] using ih List.not_mem_nil
    · rename_i hc
      exact ih (by simpa using ⟨Ne.symm hc, hpiece⟩)

end Text

namespace Path

/-! ## The order of paths -/

theorem Component.before_or_before {c d : Component} (h : c ≠ d) :
    c.before d = true ∨ d.before c = true := by
  cases c with
  | name s =>
    cases d with
    | name t =>
      have hne : s ≠ t := fun hst => h (congrArg Component.name hst)
      simp only [Component.before, decide_eq_true_eq]
      exact lt_or_gt_of_ne hne
    | _ => simp [Component.before, Component.rank]
  | _ => cases d <;> simp_all [Component.before, Component.rank]

/-- **Of two lists of components one comes first, unless they are equal.** -/
theorem not_listBefore_iff (cs ds : List Component) :
    listBefore cs ds = false ∧ listBefore ds cs = false ↔ cs = ds := by
  induction cs generalizing ds with
  | nil => cases ds <;> simp [listBefore]
  | cons c cs ih =>
    cases ds with
    | nil => simp [listBefore]
    | cons d ds =>
      by_cases h : c = d
      · simp [listBefore, h, ih]
      · have hor := Component.before_or_before h
        simp only [listBefore, h, Ne.symm h, if_false, List.cons.injEq, false_and, iff_false]
        rcases hor with hor | hor <;> simp [hor]

/-- **Paths as keys are told apart by their components.** -/
theorem identifies_before : Table.Identifies before components := by
  intro p q
  rw [← not_listBefore_iff]
  simp [Table.sameKey, before]

theorem Component.before_irrefl (c : Component) : c.before c = false := by
  cases c <;> simp [Component.before]

/-- A component comes before another one by its kind, or both are names. -/
theorem Component.before_iff {c d : Component} : c.before d = true ↔
    c.rank < d.rank ∨ ∃ s t, c = .name s ∧ d = .name t ∧ s < t := by
  cases c <;> cases d <;> simp [Component.before, Component.rank]

theorem Component.before_trans {c d e : Component} (hcd : c.before d = true)
    (hde : d.before e = true) : c.before e = true := by
  rw [Component.before_iff] at hcd hde ⊢
  rcases hcd with hcd | ⟨s, t, rfl, rfl, hst⟩ <;> rcases hde with hde | ⟨t', u, ht, rfl, htu⟩
  · exact Or.inl (hcd.trans hde)
  · subst ht
    exact Or.inl hcd
  · exact Or.inl hde
  · obtain rfl := Component.name.inj ht
    exact Or.inr ⟨s, u, rfl, rfl, hst.trans htu⟩

/-- The order of lists of components goes on. -/
theorem listBefore_trans {cs ds es : List Component} (hcd : listBefore cs ds = true)
    (hde : listBefore ds es = true) : listBefore cs es = true := by
  induction cs generalizing ds es with
  | nil =>
    cases es with
    | nil => cases ds <;> simp [listBefore] at hde
    | cons e es => rfl
  | cons c cs ih =>
    cases ds with
    | nil => simp [listBefore] at hcd
    | cons d ds =>
      cases es with
      | nil => simp [listBefore] at hde
      | cons e es =>
        by_cases heq : c = d
        · subst heq
          by_cases heq : c = e
          · subst heq
            simp only [listBefore, if_true] at hcd hde ⊢
            exact ih hcd hde
          · simpa [listBefore, heq] using hde
        · have hfirst : c.before d = true := by simpa [listBefore, heq] using hcd
          have hbefore : c.before e = true := by
            by_cases heq' : d = e
            · exact heq' ▸ hfirst
            · exact Component.before_trans hfirst (by simpa [listBefore, heq'] using hde)
          have hne : c ≠ e := by
            rintro rfl
            simp [Component.before_irrefl] at hbefore
          simp [listBefore, hne, hbefore]

/-- **The order of paths is strict.** -/
theorem isStrict_before : Table.IsStrict before where
  irrefl p := ((not_listBefore_iff p.components p.components).mpr rfl).1
  trans := listBefore_trans

@[simp] theorem same_iff {p q : Path} : p.same q = true ↔ p.components = q.components := by
  simp [same]

/-! ## Normalised paths -/

/-- A text that writes one name of a path. -/
structure IsSegment (s : String) : Prop where
  not_filler : isFiller s = false
  ne_up : s ≠ ".."
  no_separator : '/' ∉ s.toList

/-- A component that may stand anywhere behind the first one. -/
def Component.IsInner : Component → Prop
  | .root | .here => False
  | .up => True
  | .name s => IsSegment s

/-- **Components as they stand in a normalised path**, the last one first. -/
structure IsNormal (kept : List Component) : Prop where
  split : ∃ inner base, kept = inner ++ base ∧ (∀ c ∈ inner, c.IsInner) ∧
    (base = [] ∨ base = [.root])

theorem isNormal_nil : IsNormal [] := ⟨[], [], rfl, by simp, Or.inl rfl⟩

theorem IsNormal.cons {kept : List Component} (h : IsNormal kept) {c : Component}
    (hc : c.IsInner) : IsNormal (c :: kept) := by
  obtain ⟨inner, base, rfl, hinner, hbase⟩ := h.split
  exact ⟨c :: inner, base, rfl, by simpa using ⟨hc, hinner⟩, hbase⟩

/-- A step of the normalisation keeps components normal. -/
theorem IsNormal.step {kept : List Component} (h : IsNormal kept) {c : Component}
    (hc : c.IsInner ∨ c = .here) : IsNormal (normalizeStep kept c) := by
  rcases hc with hc | rfl
  · cases c with
    | root => exact hc.elim
    | here => exact hc.elim
    | name s => exact h.cons hc
    | up =>
      -- it takes the last name away, or stays where there is none
      obtain ⟨inner, base, rfl, hinner, hbase⟩ := h.split
      cases inner with
      | nil =>
        rcases hbase with rfl | rfl
        · exact isNormal_nil.cons hc
        · exact h.cons hc
      | cons d inner =>
        have hrest : IsNormal (inner ++ base) :=
          ⟨inner, base, rfl, fun e he => hinner e (List.mem_cons_of_mem _ he), hbase⟩
        have hd := hinner d (List.mem_cons_self ..)
        cases d with
        | root => exact hd.elim
        | here => exact hd.elim
        | up => simpa [normalizeStep] using hrest
        | name s => simpa [normalizeStep] using hrest
  · exact h

theorem IsNormal.foldl {kept : List Component} (h : IsNormal kept) {cs : List Component}
    (hcs : ∀ c ∈ cs, c.IsInner ∨ c = .here) : IsNormal (cs.foldl normalizeStep kept) := by
  induction cs generalizing kept with
  | nil => exact h
  | cons c cs ih =>
    exact ih (h.step (hcs c (List.mem_cons_self ..)))
      fun d hd => hcs d (List.mem_cons_of_mem _ hd)

/-- The pieces of a text write components without separators. -/
theorem mem_body_parts {p : Path} {s : String} (h : s ∈ p.parts.body) : '/' ∉ s.toList := by
  have hnil : '/' ∉ ([] : List Char) := List.not_mem_nil
  have hpieces := Text.notMem_of_mem_piecesAt hnil p.text.toList
  unfold parts at h
  split at h
  · rename_i rest heq
    split at h
    · simp at h
    · obtain ⟨piece, hpiece, rfl⟩ := List.mem_map.mp h
      simpa using hpieces piece (heq ▸ List.mem_cons_of_mem _ hpiece)
  · rename_i rest heq
    obtain ⟨piece, hpiece, rfl⟩ := List.mem_map.mp h
    simpa using hpieces piece (heq ▸ List.mem_cons_of_mem _ hpiece)
  · obtain ⟨piece, hpiece, rfl⟩ := List.mem_map.mp h
    simpa using hpieces piece hpiece

/-- The segments behind the first component of a path write inner components. -/
theorem isInner_componentOf {p : Path} {s : String} (h : s ∈ p.parts.body)
    (hfiller : isFiller s = false) : (componentOf s).IsInner := by
  unfold componentOf
  split
  · trivial
  · rename_i hup
    exact ⟨hfiller, by simpa using hup, mem_body_parts h⟩

/-- **What normalisation keeps is normal.** -/
theorem isNormal_kept (p : Path) : IsNormal (p.components.foldl normalizeStep []) := by
  have hbody : ∀ c ∈ (p.parts.body.filter fun s => !isFiller s).map componentOf,
      c.IsInner ∨ c = .here := by
    intro c hc
    obtain ⟨s, hs, rfl⟩ := List.mem_map.mp hc
    obtain ⟨hmem, hfiller⟩ := List.mem_filter.mp hs
    exact Or.inl (isInner_componentOf hmem (by simpa using hfiller))
  unfold components
  rw [List.foldl_append]
  refine IsNormal.foldl ?_ hbody
  split
  · exact ⟨[], [.root], rfl, by simp, Or.inr rfl⟩
  · split
    · exact isNormal_nil
    · exact isNormal_nil

/-- An inner component is the one that its text writes. -/
theorem Component.IsInner.spec {c : Component} (h : c.IsInner) :
    isFiller c.text = false ∧ '/' ∉ c.text.toList ∧ componentOf c.text = c := by
  cases c with
  | root => exact h.elim
  | here => exact h.elim
  | up => decide
  | name s => exact ⟨h.not_filler, h.no_separator, by simp [componentOf, text, h.ne_up]⟩

/-- Texts of inner components write these. -/
theorem map_componentOf_texts {inner : List Component} (h : ∀ c ∈ inner, c.IsInner) :
    ((inner.map Component.text).filter fun s => !isFiller s).map componentOf = inner := by
  induction inner with
  | nil => rfl
  | cons c inner ih =>
    obtain ⟨hfiller, -, heq⟩ := (h c (List.mem_cons_self ..)).spec
    have hrest := ih fun d hd => h d (List.mem_cons_of_mem _ hd)
    simp [hfiller, heq, hrest]

/-- The pieces of a row of inner components are their texts. -/
theorem pieces_intercalate {inner : List Component} (h : ∀ c ∈ inner, c.IsInner)
    (hne : inner ≠ []) :
    Text.piecesAt '/' [] ("/".intercalate (inner.map Component.text)).toList =
      (inner.map Component.text).map String.toList := by
  have hsep : ∀ s ∈ inner.map Component.text, '/' ∉ s.toList := by
    intro s hs
    obtain ⟨c, hc, rfl⟩ := List.mem_map.mp hs
    exact (h c hc).spec.2.1
  rw [show "/" = String.singleton '/' from rfl]
  exact Text.piecesAt_intercalate (by simpa using hne) hsep

/-- A text behind a separator, as parts. -/
theorem parts_rooted (s : String) :
    (⟨"/" ++ s⟩ : Path).parts =
      ⟨true, false, (Text.piecesAt '/' [] s.toList).map String.ofList⟩ := by
  have hpieces : Text.piecesAt '/' [] ("/" ++ s).toList = [] :: Text.piecesAt '/' [] s.toList := by
    rw [String.toList_append]
    simp [Text.piecesAt]
  unfold parts
  rw [hpieces]
  simp [Text.piecesAt_ne_nil]

/-- A path that is not empty and begins with no separator has a name to follow. -/
theorem segments_ne_nil {p : Path} (hp : p.text.isEmpty = false) (h : p.isAbsolute = false) :
    p.segments ≠ [] := by
  have hne : p.text.toList ≠ [] := by
    rw [ne_eq, String.toList_eq_nil_iff]
    rintro hempty
    simp [hempty] at hp
  obtain ⟨c, cs, hcs⟩ := List.exists_cons_of_ne_nil hne
  by_cases hc : c = '/'
  · -- a text that begins with a separator writes an absolute path
    have htext : p.text = "/" ++ String.ofList cs := by
      rw [← String.toList_inj, hcs, hc]
      simp
    have hparts := parts_rooted (String.ofList cs)
    rw [← htext] at hparts
    rw [isAbsolute, hparts] at h
    cases h
  · -- the first piece begins with the first character
    obtain ⟨first, rest, hfirst⟩ := List.exists_cons_of_ne_nil (List.splitOn_ne_nil '/' cs)
    rw [segments, hcs, Text.piecesAt, if_neg hc, Text.piecesAt_eq_modifyHead, hfirst,
      List.modifyHead_cons, List.map_cons, List.filter_cons_of_pos (by simp)]
    exact List.cons_ne_nil _ _

/-- A row of inner components without a separator in front, as parts. -/
theorem parts_relative {c : Component} {inner : List Component}
    (h : ∀ d ∈ c :: inner, d.IsInner) :
    (⟨"/".intercalate ((c :: inner).map Component.text)⟩ : Path).parts =
      ⟨false, false, (c :: inner).map Component.text⟩ := by
  have hfiller := (h c (List.mem_cons_self ..)).spec.1
  unfold parts
  rw [pieces_intercalate h (List.cons_ne_nil _ _)]
  -- the first piece is the text of a component, so neither nothing nor a point
  split
  · rename_i heq
    have htext : c.text = "" := String.toList_eq_nil_iff.mp (List.cons.inj heq).1
    simp [htext, isFiller] at hfiller
  · rename_i heq
    have htext : c.text = "." := String.toList_inj.mp (List.cons.inj heq).1
    simp [htext, isFiller] at hfiller
  · simp [Function.comp_def]

/-- **The components of a normalised path are those from which it was made.** -/
theorem components_ofComponents {inner base : List Component} (h : ∀ c ∈ inner, c.IsInner)
    (hbase : base = [] ∨ base = [.root]) :
    (ofComponents (base ++ inner)).components = base ++ inner := by
  rcases hbase with rfl | rfl
  · cases inner with
    | nil => decide +kernel
    | cons c inner =>
      have htext : ofComponents (c :: inner) =
          ⟨"/".intercalate ((c :: inner).map Component.text)⟩ := by
        cases c with
        | root => exact (h .root (List.mem_cons_self ..)).elim
        | _ => rfl
      rw [List.nil_append, htext, components, parts_relative h]
      simp only [Bool.false_eq_true, if_false, List.nil_append]
      exact map_componentOf_texts h
  · by_cases hne : inner = []
    · subst hne
      decide +kernel
    · have htext : ofComponents ([.root] ++ inner) =
          ⟨"/" ++ "/".intercalate (inner.map Component.text)⟩ := rfl
      rw [htext, components, parts_rooted, pieces_intercalate h hne, Text.map_ofList_map_toList]
      simp only [if_true, map_componentOf_texts h]

/-- **A normalised path is one key with another one only if they are equal.** -/
theorem normalize_eq_of_same {p q : Path} (h : p.normalize.same q.normalize = true) :
    p.normalize = q.normalize := by
  have hspec : ∀ r : Path, ofComponents r.normalize.components = r.normalize := by
    intro r
    -- the components are kept with the last one first
    obtain ⟨inner, base, hkept, hinner, hbase⟩ := (isNormal_kept r).split
    have hreverse : (r.components.foldl normalizeStep []).reverse = base ++ inner.reverse := by
      rw [hkept, List.reverse_append]
      rcases hbase with rfl | rfl <;> rfl
    unfold normalize
    rw [hreverse, components_ofComponents (by simpa using hinner) hbase]
  rw [← hspec p, ← hspec q, same_iff.mp h]

end Path

end RtlFlow
