import RtlFlow.Proofs.Cache.Asking

/-! # The decisions characterized

Each decision on a plan is told by the decisions in front of it: the file is compiled for the first
reason that applies, and skipped when none does. The loop keeps of the decisions in front only
whether one of them is to compile and how new the newest entry is; `Gathered` says that this is
enough. -/

namespace RtlFlow

/-- All reasons to compile a file, the one that is given first in front. -/
def BuildReason.precedence : List BuildReason :=
  [.unreadable, .notCached, .changed, .libraryMissing, .upstreamRebuilt, .upstreamNewer]

namespace CacheContent

variable {lookup : Path → Option CacheEntry} {fingerprint? : Path → Option String}
  {present : String → Bool}

/-- Whether some file in front of one with the generation `g` has an entry that is newer. -/
def anyNewer (lookup : Path → Option CacheEntry) (front : List PlannedFile) (g : UInt64) : Bool :=
  front.any fun y => (lookup y.file.path).any fun e => g < e.generation

/-- **Whether a reason to compile a file applies**, where `front` are the decisions in front of
it. -/
def applies (lookup : Path → Option CacheEntry) (fingerprint? : Path → Option String)
    (present : String → Bool) (front : List PlannedFile) (f : SourceFile) : BuildReason → Bool
  | .unreadable => (fingerprint? f.path).isNone
  | .notCached => (lookup f.path).isNone
  | .changed => fingerprint? f.path ≠ (lookup f.path).map (·.fingerprint)
  | .libraryMissing => !present f.library
  | .upstreamRebuilt => front.any (·.action.isBuild)
  | .upstreamNewer => (lookup f.path).any fun e => anyNewer lookup front e.generation

/-- **The first reason to compile a file** that applies. -/
def firstReason (lookup : Path → Option CacheEntry) (fingerprint? : Path → Option String)
    (present : String → Bool) (front : List PlannedFile) (f : SourceFile) : Option BuildReason :=
  BuildReason.precedence.find? (applies lookup fingerprint? present front f)

/-- The action for a reason to compile, or for none. -/
def actionFor : Option BuildReason → BuildAction
  | some reason => .build reason
  | none => .skip

/-! ## What the loop keeps -/

/-- **What is kept of the decisions in front** tells all that matters of them. -/
structure Gathered (lookup : Path → Option CacheEntry) (front : List PlannedFile) (rebuilt : Bool)
    (newest : UInt64) : Prop where
  /-- It is known whether one of them is to compile. -/
  anyBuild : rebuilt = front.any (·.action.isBuild)
  /-- If none is, what is older than the newest is older than one of them. -/
  older : rebuilt = false → ∀ g, decide (g < newest) = anyNewer lookup front g

variable {front : List PlannedFile} {rebuilt : Bool} {newest : UInt64} {f : SourceFile}

theorem gathered_nil : Gathered lookup [] false 0 where
  anyBuild := rfl
  older _ g := by simp [anyNewer]

/-- **The decision on a file is made for the first reason that applies.** -/
theorem Gathered.decision_eq (h : Gathered lookup front rebuilt newest) :
    decision (fingerprint? f.path) (lookup f.path) (present f.library) rebuilt newest =
      actionFor (firstReason lookup fingerprint? present front f) := by
  unfold firstReason BuildReason.precedence
  -- the cases part in the order of precedence, so in each one all earlier reasons are ruled out
  cases hcurrent : fingerprint? f.path with
  | none => simp [decision, applies, actionFor, hcurrent]
  | some fingerprint =>
    cases hentry : lookup f.path with
    | none => simp [decision, applies, actionFor, hcurrent, hentry]
    | some e =>
      by_cases hsame : fingerprint = e.fingerprint
      · cases hpresent : present f.library
        · simp [decision, applies, actionFor, hcurrent, hentry, hsame, hpresent]
        · cases rebuilt with
          | true =>
            simp [decision, applies, actionFor, hcurrent, hentry, hsame, hpresent, ← h.anyBuild]
          | false =>
            -- only here does the loop compare generations, and only here is the newest right
            have hnewer := h.older rfl e.generation
            by_cases hold : e.generation < newest <;>
              simp [decision, applies, actionFor, hcurrent, hentry, hsame, hpresent, ← h.anyBuild,
                ← hnewer, hold]
      · simp [decision, applies, actionFor, hcurrent, hentry, hsame]

/-- **A decision keeps what is gathered.** -/
theorem Gathered.append (h : Gathered lookup front rebuilt newest) {action : BuildAction}
    (hskip : action = .skip → (lookup f.path).isSome) (current : Option String) :
    Gathered lookup (front ++ [⟨f, action, current⟩]) (rebuilt || action.isBuild)
      (newestAfter action (lookup f.path) newest) where
  anyBuild := by simp [h.anyBuild]
  older hnone g := by
    -- when nothing is to compile so far, this file is skipped and its entry counts for the newest
    obtain ⟨hrebuilt, haction⟩ := Bool.or_eq_false_iff.mp hnone
    obtain rfl := isBuild_eq_false_iff.mp haction
    obtain ⟨e, he⟩ := Option.isSome_iff_exists.mp (hskip rfl)
    have hmax : decide (g < max newest e.generation) =
        (decide (g < newest) || decide (g < e.generation)) := by
      simp [lt_max_generation]
    simp [anyNewer, newestAfter, he, hmax, h.older hrebuilt g]

/-! ## No reason to compile -/

/-- No file in front is newer when none has an entry with a greater generation. -/
theorem anyNewer_eq_false_iff {g : UInt64} :
    anyNewer lookup front g = false ↔
      ∀ y ∈ front, ∀ e, lookup y.file.path = some e → e.generation ≤ g := by
  unfold anyNewer
  rw [List.any_eq_false]
  refine forall₂_congr fun y _ => ?_
  cases lookup y.file.path <;> simp

/-- **No reason to compile a file applies** when it has the content that was last compiled, its
library is there, and all files in front of it are skipped and none of them is newer. -/
theorem actionFor_firstReason_eq_skip_iff :
    actionFor (firstReason lookup fingerprint? present front f) = .skip ↔
      ∃ e, lookup f.path = some e ∧ fingerprint? f.path = some e.fingerprint ∧
        present f.library = true ∧ ∀ y ∈ front, y.action = .skip ∧
          ∀ e', lookup y.file.path = some e' → e'.generation ≤ e.generation := by
  have hnone : actionFor (firstReason lookup fingerprint? present front f) = .skip ↔
      ∀ reason ∈ BuildReason.precedence, ¬ applies lookup fingerprint? present front f reason := by
    rw [← List.find?_eq_none]
    unfold firstReason
    cases BuildReason.precedence.find? _ <;> simp [actionFor]
  rw [hnone]
  cases hentry : lookup f.path with
  | none => simp [BuildReason.precedence, applies, hentry]
  | some e =>
    have hnewer : anyNewer lookup front e.generation = false ↔
        ∀ y ∈ front, ∀ e', lookup y.file.path = some e' → e'.generation ≤ e.generation :=
      anyNewer_eq_false_iff
    simp only [BuildReason.precedence, List.forall_mem_cons, List.not_mem_nil, IsEmpty.forall_iff,
      implies_true, and_true, applies, hentry, Option.isNone_some, Option.map_some, Option.any_some,
      Option.some.injEq, Option.isNone_eq_false_iff, ne_eq, decide_not, Bool.not_eq_eq_eq_not,
      Bool.not_false, Bool.not_eq_true, decide_eq_true_eq, List.any_eq_false, isBuild_eq_false_iff,
      hnewer, true_and, ↓existsAndEq]
    constructor
    · rintro ⟨-, hcurrent, hpresent, hskip, hold⟩
      exact ⟨hcurrent, hpresent, fun y hy => ⟨hskip y hy, hold y hy⟩⟩
    · rintro ⟨hcurrent, hpresent, hfront⟩
      exact ⟨by simp [hcurrent], hcurrent, hpresent, fun y hy => (hfront y hy).1,
        fun y hy => (hfront y hy).2⟩

/-! ## The decisions on a plan -/

/-- **Each decision is the one for the first reason that applies**, behind the decisions in front of
it. -/
theorem Gathered.action_eq (h : Gathered lookup front rebuilt newest) {files : List SourceFile}
    {before after : List PlannedFile} {x : PlannedFile}
    (hsplit : decideAll lookup fingerprint? present rebuilt newest files = before ++ x :: after) :
    x.action = actionFor (firstReason lookup fingerprint? present (front ++ before) x.file) := by
  induction files generalizing front rebuilt newest before with
  | nil => simp [decideAll] at hsplit
  | cons f files ih =>
    obtain ⟨action, haction, heq⟩ :=
      decideAll_cons lookup fingerprint? present rebuilt newest f files
    rw [heq] at hsplit
    rw [h.decision_eq] at haction
    -- what is skipped has an entry, which is all that the next step asks of it
    have hskip : action = .skip → (lookup f.path).isSome := fun hskip => by
      obtain ⟨e, he, -⟩ := actionFor_firstReason_eq_skip_iff.mp (haction.symm.trans hskip)
      rw [he, Option.isSome_some]
    cases before with
    | nil =>
      rw [List.nil_append, List.cons.injEq] at hsplit
      obtain ⟨rfl, -⟩ := hsplit
      rw [List.append_nil]
      exact haction
    | cons y before =>
      rw [List.cons_append, List.cons.injEq] at hsplit
      obtain ⟨rfl, hrest⟩ := hsplit
      have hgo := ih (h.append hskip (fingerprint? f.path)) hrest
      rwa [List.append_assoc, List.singleton_append] at hgo

/-- An action tells the reason that it is for. -/
theorem actionFor_eq_build_iff {found : Option BuildReason} {reason : BuildReason} :
    actionFor found = .build reason ↔ found = some reason := by
  cases found <;> simp [actionFor]

/-- **The decisions characterized.** The plan with its decisions lists just the files of the plan in
their order, each with its fingerprint. A file is skipped when it has an entry with that
fingerprint, its library is there, and all files in front of it are skipped and none of them is
newer; so the files that are skipped stand in front. Otherwise it is compiled for the first reason
that applies. What is known of other libraries than those of the files does not matter, and a
library is asked for once, whatever asking does. -/
theorem filter_characterization (c : CacheContent) (plan : BuildPlan) (backend : String)
    (fingerprint? : Path → Option String) (present : String → Bool) :
    ((c.filter plan backend fingerprint? present).entries.map (·.file) = plan.files ∧
        ∀ x ∈ (c.filter plan backend fingerprint? present).entries,
          x.fingerprint = fingerprint? x.file.path) ∧
      (∀ front x rest,
        (c.filter plan backend fingerprint? present).entries = front ++ x :: rest →
          (x.action = .skip ↔
            ∃ e, c.find? backend x.file.path = some e ∧ x.fingerprint = some e.fingerprint ∧
              present x.file.library = true ∧ ∀ y ∈ front, y.action = .skip ∧
                ∀ e', c.find? backend y.file.path = some e' → e'.generation ≤ e.generation) ∧
          ∀ reason, x.action = .build reason ↔
            BuildReason.precedence.find?
              (applies (c.find? backend) fingerprint? present front x.file) = some reason) ∧
      (c.filter plan backend fingerprint? present).entries =
        (c.filter plan backend fingerprint? present).skipped ++
          (c.filter plan backend fingerprint? present).toBuild ∧
      (∀ present', (∀ f ∈ plan.files, present' f.library = present f.library) →
        c.filter plan backend fingerprint? present' =
          c.filter plan backend fingerprint? present) ∧
      (plan.askedLibraries.Nodup ∧
        (∀ l, l ∈ plan.askedLibraries ↔ ∃ f ∈ plan.files, f.library = l) ∧
        ∀ (m : Type → Type) [Monad m] [LawfulMonad m],
          c.filterAsking plan backend fingerprint? (fun l => (pure (present l) : m Bool)) =
              pure (c.filter plan backend fingerprint? present) ∧
            ∀ ask : String → m Bool,
              c.filterAsking plan backend fingerprint? ask =
                (plan.askedLibraries.mapM fun l => (l, ·) <$> ask l) >>= fun answers =>
                  pure (c.filter plan backend fingerprint? (Answers.present answers))) := by
  have hfingerprint : ∀ x ∈ (c.filter plan backend fingerprint? present).entries,
      x.fingerprint = fingerprint? x.file.path :=
    fingerprint_of_mem_decideAll
  refine ⟨⟨map_file_decideAll false 0 plan.files, hfingerprint⟩, fun front x rest hsplit => ?_,
    entries_filter_eq c plan backend fingerprint? present,
    fun present' h => filter_congr h c backend fingerprint?,
    nodup_eraseDups _, fun l => ?_,
    fun m _ _ => ⟨filterAsking_pure c plan backend fingerprint? present,
      filterAsking_eq c plan backend fingerprint?⟩⟩
  · have haction : x.action =
        actionFor (firstReason (c.find? backend) fingerprint? present front x.file) :=
      gathered_nil.action_eq hsplit
    have hx : x ∈ (c.filter plan backend fingerprint? present).entries := by simp [hsplit]
    rw [haction, hfingerprint x hx]
    exact ⟨actionFor_firstReason_eq_skip_iff, fun reason => actionFor_eq_build_iff⟩
  · simp [BuildPlan.askedLibraries]

end CacheContent

end RtlFlow
