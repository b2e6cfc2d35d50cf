import RtlFlow.Proofs.Catalog.Registration
import Mathlib.Data.List.Basic
import Mathlib.Logic.Relation

/-! # Lexical resolution of paths

To resolve a path lexically is to drop every `.`, and to let every `..` go together with the name
right before it, until nothing is left to go: what remains leads up a number of times and then
through names, and it does not depend on the order in which things went (`LeadsTo.unique`). The way
up is dropped at the root, and kept in front of a relative path.

The normalisation of a catalog keeps the names, but of the way up only whether its length is even: a
`..` that finds no name is kept, also at the root, and the next one takes it away again
(`foldl_normalizeStep`). So a path is stored as its lexical resolution exactly when it leads up at
most once, or at the root an even number of times (`resolvePath_spec`). -/

namespace RtlFlow

namespace Path

/-! ## Cancelling -/

/-- **Something goes** from a row of components. -/
inductive Cancels : List Component → List Component → Prop
  /-- A `.` is dropped. -/
  | here (before behind : List Component) : Cancels (before ++ .here :: behind) (before ++ behind)
  /-- A `..` goes together with the name right before it. -/
  | up (before : List Component) (name : String) (behind : List Component) :
      Cancels (before ++ .name name :: .up :: behind) (before ++ behind)

/-- Components that lead up and then through names. -/
def climb (ups : Nat) (names : List String) : List Component :=
  List.replicate ups .up ++ names.map .name

/-- **What remains of components**: they lead up so many times, and then through names. -/
def LeadsTo (cs : List Component) (ups : Nat) (names : List String) : Prop :=
  Relation.ReflTransGen Cancels cs (climb ups names)

/-- How far components lead, as they are read one after the other. -/
structure Climb where
  /-- How often they lead up. -/
  ups : Nat
  /-- The names behind that, the last one first. -/
  names : List String

namespace Climb

/-- One more component. -/
def step (k : Climb) : Component → Climb
  | .name s => { k with names := s :: k.names }
  | .up =>
    match k.names with
    | [] => { k with ups := k.ups + 1 }
    | _ :: rest => { k with names := rest }
  | _ => k

/-- The components that lead there at once. -/
def components (k : Climb) : List Component := climb k.ups k.names.reverse

/-- Where components lead. -/
def ofComponents (cs : List Component) : Climb := cs.foldl step ⟨0, []⟩

end Climb

/-- Components lead to what is read off them. -/
theorem reflTransGen_foldl_step {cs : List Component} (hcs : .root ∉ cs) (k : Climb) :
    Relation.ReflTransGen Cancels (k.components ++ cs) (cs.foldl Climb.step k).components := by
  induction cs generalizing k with
  | nil => simp [Relation.ReflTransGen.refl]
  | cons c cs ih =>
    obtain ⟨hc, hcs⟩ : c ≠ .root ∧ .root ∉ cs := by simpa [eq_comm] using hcs
    have hrest := ih hcs (k.step c)
    obtain ⟨ups, names⟩ := k
    cases c with
    | root => exact absurd rfl hc
    | here => exact .head (.here _ _) hrest
    | name s =>
      have hsame : (Climb.step ⟨ups, names⟩ (.name s)).components =
          Climb.components ⟨ups, names⟩ ++ [.name s] := by
        simp [Climb.step, Climb.components, climb]
      rw [hsame, List.append_assoc] at hrest
      exact hrest
    | up =>
      cases names with
      | nil =>
        have hsame : (Climb.step ⟨ups, []⟩ .up).components =
            Climb.components ⟨ups, []⟩ ++ [.up] := by
          simp [Climb.step, Climb.components, climb, List.replicate_succ']
        rw [hsame, List.append_assoc] at hrest
        exact hrest
      | cons s rest =>
        have hsplit : Climb.components ⟨ups, s :: rest⟩ ++ .up :: cs =
            Climb.components ⟨ups, rest⟩ ++ .name s :: .up :: cs := by
          simp [Climb.components, climb]
        rw [hsplit]
        exact .head (.up _ _ _) hrest

/-- **Components lead somewhere.** -/
theorem leadsTo_ofComponents {cs : List Component} (hcs : .root ∉ cs) :
    LeadsTo cs (Climb.ofComponents cs).ups (Climb.ofComponents cs).names.reverse :=
  reflTransGen_foldl_step hcs ⟨0, []⟩

/-- What goes does not change where components lead. -/
theorem ofComponents_eq_of_reflTransGen {cs ds : List Component}
    (h : Relation.ReflTransGen Cancels cs ds) :
    Climb.ofComponents cs = Climb.ofComponents ds := by
  induction h with
  | refl => rfl
  | tail _ hstep ih =>
    refine ih.trans ?_
    cases hstep with
    | here before behind => simp [Climb.ofComponents, Climb.step]
    | up before name behind => simp [Climb.ofComponents, Climb.step]

/-- Components that lead up and then through names lead there. -/
theorem ofComponents_climb (ups : Nat) (names : List String) :
    Climb.ofComponents (climb ups names) = ⟨ups, names.reverse⟩ := by
  have hups : ∀ k, (List.replicate ups Component.up).foldl Climb.step ⟨k, []⟩ = ⟨k + ups, []⟩ := by
    induction ups with
    | zero => intro k; rfl
    | succ ups ih =>
      intro k
      rw [List.replicate_succ, List.foldl_cons]
      exact (ih (k + 1)).trans (by rw [Nat.add_assoc, Nat.add_comm 1])
  have hnames : ∀ rest, (names.map Component.name).foldl Climb.step ⟨ups, rest⟩ =
      ⟨ups, names.reverse ++ rest⟩ := by
    induction names with
    | nil => intro rest; rfl
    | cons s names ih =>
      intro rest
      rw [List.map_cons, List.foldl_cons]
      exact (ih (s :: rest)).trans (by simp)
  rw [Climb.ofComponents, climb, List.foldl_append, hups, Nat.zero_add, hnames, List.append_nil]

/-- Components lead where they are read to lead. -/
theorem LeadsTo.ofComponents_eq {cs : List Component} {ups : Nat} {names : List String}
    (h : LeadsTo cs ups names) : Climb.ofComponents cs = ⟨ups, names.reverse⟩ :=
  (ofComponents_eq_of_reflTransGen h).trans (ofComponents_climb ups names)

/-- **Components lead to one place only**, in whatever order things go. -/
theorem LeadsTo.unique {cs : List Component} {ups ups' : Nat} {names names' : List String}
    (h : LeadsTo cs ups names) (h' : LeadsTo cs ups' names') : ups' = ups ∧ names' = names := by
  have heq := h'.ofComponents_eq.symm.trans h.ofComponents_eq
  simpa using heq

/-! ## What the normalisation keeps -/

/-- What the normalisation has kept of components behind `base`, the last one first: the names, and
one `..` when they lead up an odd number of times. -/
def Climb.kept (k : Climb) (base : List Component) : List Component :=
  k.names.map .name ++ List.replicate (k.ups % 2) .up ++ base

/-- **A step of the normalisation** keeps the names, and whether the way up is even. -/
theorem normalizeStep_kept {base : List Component} (hbase : base = [] ∨ base = [.root])
    {c : Component} (hc : c ≠ .root) (k : Climb) :
    normalizeStep (k.kept base) c = (k.step c).kept base := by
  obtain ⟨ups, names⟩ := k
  cases c with
  | root => exact absurd rfl hc
  | here => rfl
  | name s => rfl
  | up =>
    cases names with
    | cons s rest => cases rest <;> rfl
    | nil =>
      -- here a `..` finds another one, or nothing but the root
      rcases Nat.mod_two_eq_zero_or_one ups with heven | hodd
      · have hnext : (ups + 1) % 2 = 1 := by omega
        rcases hbase with rfl | rfl <;> simp [Climb.kept, Climb.step, heven, hnext, normalizeStep]
      · have hnext : (ups + 1) % 2 = 0 := by omega
        rcases hbase with rfl | rfl <;> simp [Climb.kept, Climb.step, hodd, hnext, normalizeStep]

/-- **The normalisation of components** behind `base`. -/
theorem foldl_normalizeStep {base : List Component} (hbase : base = [] ∨ base = [.root])
    {cs : List Component} (hcs : .root ∉ cs) (k : Climb) :
    cs.foldl normalizeStep (k.kept base) = (cs.foldl Climb.step k).kept base := by
  induction cs generalizing k with
  | nil => rfl
  | cons c cs ih =>
    obtain ⟨hc, hcs⟩ : c ≠ .root ∧ .root ∉ cs := by simpa [eq_comm] using hcs
    rw [List.foldl_cons, List.foldl_cons, normalizeStep_kept hbase hc, ih hcs]

/-- The root, where a path begins there. -/
def lead (p : Path) : List Component := if p.isAbsolute then [.root] else []

/-- The components of a path behind the root. -/
def way (p : Path) : List Component := p.components.filter (· ≠ .root)

theorem lead_cases (p : Path) : p.lead = [] ∨ p.lead = [.root] := by
  unfold lead
  split <;> simp

/-- A path begins at the root or not, and there is no root behind that. -/
theorem exists_components_eq (p : Path) :
    ∃ rest, p.components = p.lead ++ rest ∧ ∀ c ∈ rest, c.IsInner ∨ c = .here := by
  have hbody : ∀ c ∈ (p.parts.body.filter fun s => !isFiller s).map componentOf, c.IsInner := by
    intro c hc
    obtain ⟨s, hs, rfl⟩ := List.mem_map.mp hc
    obtain ⟨hmem, hfiller⟩ := List.mem_filter.mp hs
    exact isInner_componentOf hmem (by simpa using hfiller)
  unfold components lead isAbsolute
  dsimp only
  cases p.parts.rooted
  · refine ⟨(if p.parts.dotted then [.here] else []) ++ _, rfl, fun c hc => ?_⟩
    rcases List.mem_append.mp hc with hc | hc
    · split at hc
      · exact Or.inr (List.mem_singleton.mp hc)
      · exact absurd hc List.not_mem_nil
    · exact Or.inl (hbody c hc)
  · exact ⟨_, rfl, fun c hc => Or.inl (hbody c hc)⟩

theorem lead_append_way (p : Path) : p.lead ++ p.way = p.components := by
  obtain ⟨rest, hcomponents, hrest⟩ := p.exists_components_eq
  have hkeep : rest.filter (· ≠ .root) = rest := List.filter_eq_self.mpr fun c hc => by
    rcases hrest c hc with hinner | rfl
    · exact decide_eq_true (by rintro rfl; exact hinner)
    · rfl
  have hlead : p.lead.filter (· ≠ .root) = [] := by
    rcases p.lead_cases with hlead | hlead <;> rw [hlead] <;> rfl
  rw [way, hcomponents, List.filter_append, hlead, hkeep]
  rfl

/-- A component of the way is one of a normalised path, or a `.`. -/
theorem isInner_of_mem_way {p : Path} {c : Component} (h : c ∈ p.way) : c.IsInner ∨ c = .here := by
  obtain ⟨rest, hcomponents, hrest⟩ := p.exists_components_eq
  rw [← lead_append_way] at hcomponents
  exact hrest c (List.append_cancel_left hcomponents ▸ h)

theorem root_notMem_way (p : Path) : .root ∉ p.way := by simp [way]

variable {p q : Path} {ups ups' : Nat} {names names' : List String}

/-- **A normalised path** begins where the path begins, and leads through the same names; of the way
up it keeps one `..` or none. -/
theorem normalize_eq (h : LeadsTo p.way ups names) :
    p.normalize = ofComponents (p.lead ++ climb (ups % 2) names) := by
  have hlead : p.lead.foldl normalizeStep [] = (⟨0, []⟩ : Climb).kept p.lead := by
    rcases p.lead_cases with hlead | hlead <;> rw [hlead] <;> rfl
  have hkept : p.components.foldl normalizeStep [] = (⟨ups, names.reverse⟩ : Climb).kept p.lead := by
    rw [← lead_append_way, List.foldl_append, hlead,
      foldl_normalizeStep p.lead_cases p.root_notMem_way, ← h.ofComponents_eq]
    rfl
  have hreverse : p.lead.reverse = p.lead := by
    rcases p.lead_cases with hlead | hlead <;> rw [hlead] <;> rfl
  rw [normalize, hkept]
  simp [Climb.kept, climb, hreverse]

/-- Where components lead, only their own names lie on the way. -/
theorem subset_of_reflTransGen {cs ds : List Component} (h : Relation.ReflTransGen Cancels cs ds) :
    ds ⊆ cs := by
  induction h with
  | refl => exact List.Subset.refl _
  | tail _ hstep ih =>
    refine List.Subset.trans (fun c hc => ?_) ih
    cases hstep with
    | here => simp only [List.mem_append, List.mem_cons] at hc ⊢; tauto
    | up => simp only [List.mem_append, List.mem_cons] at hc ⊢; tauto

/-- The components of a climb are those of a normalised path. -/
theorem LeadsTo.isInner (h : LeadsTo p.way ups names) (k : Nat) : ∀ c ∈ climb k names, c.IsInner := by
  intro c hc
  rcases List.mem_append.mp hc with hc | hc
  · rw [List.eq_of_mem_replicate hc]
    trivial
  · have hway := subset_of_reflTransGen h (List.mem_append_right _ hc)
    obtain ⟨s, -, rfl⟩ := List.mem_map.mp hc
    exact (isInner_of_mem_way hway).resolve_right (by simp)

/-- The components of a path that begins as `p` and leads where `p` leads, but for the way up. -/
theorem LeadsTo.components_eq (h : LeadsTo p.way ups names) (k : Nat) :
    (ofComponents (p.lead ++ climb k names)).components = p.lead ++ climb k names :=
  components_ofComponents (h.isInner k) p.lead_cases

/-- **Two such paths are equal** only if they begin in one place, and lead up as often and through
the same names. -/
theorem LeadsTo.ofComponents_inj (h : LeadsTo p.way ups names) (h' : LeadsTo q.way ups' names')
    {k l : Nat} : ofComponents (q.lead ++ climb l names') = ofComponents (p.lead ++ climb k names) ↔
      q.lead = p.lead ∧ l = k ∧ names' = names := by
  constructor
  · intro heq
    have hcomponents := congrArg components heq
    rw [h.components_eq, h'.components_eq] at hcomponents
    -- there is a root in both or in none
    have hroot : .root ∈ q.lead ++ climb l names' ↔ .root ∈ p.lead ++ climb k names := by
      rw [hcomponents]
    have hlead : q.lead = p.lead := by
      rcases p.lead_cases with hp | hp <;> rcases q.lead_cases with hq | hq <;>
        simp [hp, hq, climb] at hroot ⊢
    rw [hlead] at hcomponents
    have hclimb := congrArg Climb.ofComponents (List.append_cancel_left hcomponents)
    rw [ofComponents_climb, ofComponents_climb] at hclimb
    simpa [hlead] using hclimb
  · rintro ⟨hlead, rfl, rfl⟩
    rw [hlead]

/-- **The lexical resolution of a path** whose way leads up so many times and then through names:
the way up is dropped at the root, and stands in front of a relative path. -/
def lexical (p : Path) (ups : Nat) (names : List String) : Path :=
  ofComponents (p.lead ++ climb (if p.isAbsolute then 0 else ups) names)

/-- **A normalised path is the lexical resolution** only if it leads up at most once, or at the root
an even number of times. -/
theorem normalize_eq_lexical_iff (h : LeadsTo p.way ups names) :
    p.normalize = p.lexical ups names ↔ if p.isAbsolute then ups % 2 = 0 else ups ≤ 1 := by
  rw [normalize_eq h, lexical, h.ofComponents_inj h]
  by_cases habs : p.isAbsolute
  · simp only [habs, if_true, true_and, and_true]
  · simp only [habs, Bool.false_eq_true, if_false, true_and, and_true]
    omega

/-- A normalised path leads up only if the way up is odd. -/
theorem up_mem_components_normalize_iff (h : LeadsTo p.way ups names) :
    .up ∈ p.normalize.components ↔ ups % 2 = 1 := by
  have hlead : .up ∉ p.lead := by
    rcases p.lead_cases with hlead | hlead <;> simp [hlead]
  rw [normalize_eq h, h.components_eq]
  simp [climb, hlead]

/-- Two paths are normalised to the same one if they begin in one place and lead through the same
names, and the ways up are both even or both odd. -/
theorem normalize_eq_normalize_iff (h : LeadsTo p.way ups names) (h' : LeadsTo q.way ups' names') :
    q.normalize = p.normalize ↔ q.lead = p.lead ∧ ups' % 2 = ups % 2 ∧ names' = names := by
  rw [normalize_eq h, normalize_eq h', h.ofComponents_inj h']

end Path

namespace Catalog

open RtlFlow.Path

/-- A path taken from the root of a catalog. -/
def taken (c : Catalog) (p : Path) : Path := if p.isAbsolute then p else c.root.join p

theorem resolvePath_eq (c : Catalog) (p : Path) : c.resolvePath p = (c.taken p).normalize := rfl

/-- A constraints file is put behind the others, under its normalised path. -/
theorem map_path_addConstraints (c : Catalog) (p : Path) (flow : Option String) :
    (c.addConstraints p flow).constraints.map (·.path) =
      c.constraints.map (·.path) ++ [c.resolvePath p] := by
  rw [addConstraints, List.map_append, List.map_cons, List.map_nil]

/-- **How a catalog resolves paths.** A path that is taken from the root of the catalog leads up so
many times and then through names, whatever order things go in. Of the way up the path that is kept
has one `..` when it is odd, and none when it is even; so it is the lexical resolution of the path
only if the way up is even at the root of the file system, or at most one step elsewhere, and two
paths are kept as one when they lead through the same names from the same place and both ways up are
even or both are odd. This is the path under which files are registered and found, and under which
constraints files are added. -/
theorem resolvePath_spec (c : Catalog) (p : Path) :
    ∃ ups names, LeadsTo (c.taken p).way ups names ∧
      (∀ ups' names', LeadsTo (c.taken p).way ups' names' → ups' = ups ∧ names' = names) ∧
      c.resolvePath p = ofComponents ((c.taken p).lead ++ climb (ups % 2) names) ∧
      (c.resolvePath p = (c.taken p).lexical ups names ↔
        if (c.taken p).isAbsolute then ups % 2 = 0 else ups ≤ 1) ∧
      (.up ∈ (c.resolvePath p).components ↔ ups % 2 = 1) ∧
      (∀ q ups' names', LeadsTo (c.taken q).way ups' names' →
        (c.resolvePath q = c.resolvePath p ↔
          (c.taken q).lead = (c.taken p).lead ∧ ups' % 2 = ups % 2 ∧ names' = names)) ∧
      (∀ library a c', c.register p library a = .ok c' →
        ∃ f, c'.file? p = some f ∧ f.path = c.resolvePath p) ∧
      (∀ f, c.file? p = some f → f.path = c.resolvePath p) ∧
      ∀ flow, (c.addConstraints p flow).constraints.map (·.path) =
        c.constraints.map (·.path) ++ [c.resolvePath p] := by
  have h := leadsTo_ofComponents (c.taken p).root_notMem_way
  refine ⟨_, _, h, fun ups' names' h' => h.unique h', ?_, ?_, ?_, fun q ups' names' h' => ?_,
    fun library a c' hregister => ?_, fun f hf => (path_of_file? hf).2,
    map_path_addConstraints c p⟩
  · rw [resolvePath_eq]
    exact normalize_eq h
  · rw [resolvePath_eq]
    exact normalize_eq_lexical_iff h
  · rw [resolvePath_eq]
    exact up_mem_components_normalize_iff h
  · rw [resolvePath_eq, resolvePath_eq]
    exact normalize_eq_normalize_iff h h'
  · obtain ⟨f, hf, hfile⟩ := file?_of_register hregister
    refine ⟨f, hf, ?_⟩
    rcases hfile with rfl | ⟨rfl, -⟩
    · exact fileFor_path ..
    · exact (path_of_file? hf).2

/-- **Paths are not always kept as their lexical resolutions**: from a directory `rel` the path
`../../../a.vhd` is kept as `a.vhd`, and `/../b.vhd` stays as it is. -/
theorem not_forall_resolvePath_lexical :
    (¬ ∀ (c : Catalog) (p : Path) (ups : Nat) (names : List String),
      LeadsTo (c.taken p).way ups names → c.resolvePath p = (c.taken p).lexical ups names) ∧
    ¬ ∀ (c : Catalog) (p : Path), (c.taken p).isAbsolute = true →
      .up ∉ (c.resolvePath p).components := by
  constructor
  · intro hall
    have h := leadsTo_ofComponents
      ((Catalog.empty ⟨"rel"⟩).taken ⟨"../../../a.vhd"⟩).root_notMem_way
    have heq := hall _ _ _ _ h
    revert heq
    decide +kernel
  · intro hall
    have hnot := hall (.empty ⟨"rel"⟩) ⟨"/../b.vhd"⟩ (by decide +kernel)
    revert hnot
    decide +kernel

end Catalog

end RtlFlow
