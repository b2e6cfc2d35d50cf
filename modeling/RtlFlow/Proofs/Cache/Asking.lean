import RtlFlow.Cache.Asking
import RtlFlow.Proofs.Cache.Decisions

/-! # Every library is asked for once

To decide on a plan while the libraries are asked for is to ask for all of them, each once and in
the order of their first files, and to decide with the answers (`filterAsking_eq`). So the
decisions depend on nothing else that could be asked (`filter_congr`). -/

namespace RtlFlow

namespace Answers

variable {known new : Answers} {library l : String} {b : Bool}

/-- An answer is looked up among the earlier ones first. -/
theorem get?_append : get? (known ++ new) l = (known.get? l).or (get? new l) := List.lookup_append

@[simp] theorem get?_add_self (h : known.get? library = none) :
    (known.add library b).get? library = some b := by
  rw [add, get?_append, h]
  simp [get?]

@[simp] theorem get?_add_of_ne (h : l ≠ library) : (known.add library b).get? l = known.get? l := by
  have hne : (l == library) = false := by simpa using h
  rw [add, get?_append]
  simp [get?, List.lookup_cons, hne]

/-- What is known is not asked again. -/
theorem present_append (h : known.get? l = some b) : present (known ++ new) l = b := by
  rw [present, get?_append, h]
  rfl

/-- Each library for which there is an answer has its own. -/
theorem get?_map_of_mem {present : String → Bool} {libraries : List String} (h : l ∈ libraries) :
    get? (libraries.map fun l => (l, present l)) l = some (present l) := by
  induction libraries with
  | nil => simp at h
  | cons k libraries ih =>
    by_cases hk : l = k
    · simp [get?, hk]
    · have hrest := ih ((List.mem_cons.mp h).resolve_left hk)
      have hne : (l == k) = false := by simpa using hk
      simpa [get?, List.lookup_cons, hne] using hrest

end Answers

/-- **The libraries that are still to be asked for**, in the order of their first files. -/
def unasked (known : Answers) (files : List SourceFile) : List String :=
  ((files.map (·.library)).filter fun l => (known.get? l).isNone).eraseDups

variable {known : Answers} {f : SourceFile} {files : List SourceFile}

theorem unasked_of_known {b : Bool} (h : known.get? f.library = some b) :
    unasked known (f :: files) = unasked known files := by
  simp [unasked, h]

/-- A library that is asked for is not asked for at a later file, whatever the answer is. -/
theorem unasked_of_unknown (h : known.get? f.library = none) (b : Bool) :
    unasked known (f :: files) = f.library :: unasked (known.add f.library b) files := by
  unfold unasked
  rw [List.map_cons, List.filter_cons_of_pos (by simp [h]), List.eraseDups_cons, List.filter_filter]
  congr 2
  refine List.filter_congr fun l _ => ?_
  by_cases hl : l = f.library
  · simp [hl, h]
  · simp [hl]

/-- No member of a list stands in it twice when the later ones are left out. -/
theorem nodup_eraseDups {α : Type} [DecidableEq α] (xs : List α) : xs.eraseDups.Nodup := by
  induction hlength : xs.length using Nat.strong_induction_on generalizing xs with
  | h n ih =>
    cases xs with
    | nil => simp
    | cons a xs =>
      rw [List.eraseDups_cons, List.nodup_cons, List.mem_eraseDups]
      have hshort := List.length_filter_le (fun b => !b == a) xs
      rw [List.length_cons] at hlength
      exact ⟨by simp, ih _ (by omega) _ rfl⟩

namespace CacheContent

variable {lookup : Path → Option CacheEntry} {fingerprint? : Path → Option String}
  {present present' : String → Bool}

/-- The decisions on files depend only on what is known of their libraries. -/
theorem decideAll_congr (h : ∀ f ∈ files, present' f.library = present f.library) (rebuilt : Bool)
    (newest : UInt64) :
    decideAll lookup fingerprint? present' rebuilt newest files =
      decideAll lookup fingerprint? present rebuilt newest files := by
  induction files generalizing rebuilt newest with
  | nil => rfl
  | cons f files ih =>
    have hfirst := h f (List.mem_cons_self ..)
    have hrest := ih fun g hg => h g (List.mem_cons_of_mem _ hg)
    simp only [decideAll, hfirst, hrest]

/-- **The decisions on a plan depend only on what is known of the libraries of its files.** -/
theorem filter_congr {plan : BuildPlan}
    (h : ∀ f ∈ plan.files, present' f.library = present f.library)
    (c : CacheContent) (backend : String) (fingerprint? : Path → Option String) :
    c.filter plan backend fingerprint? present' = c.filter plan backend fingerprint? present :=
  congrArg FilteredPlan.mk (decideAll_congr h false 0)

variable {m : Type → Type} [Monad m] [LawfulMonad m]

/-- **To decide while asking is to ask for what is not known, and then to decide.** -/
theorem decideAsking_eq (lookup : Path → Option CacheEntry) (fingerprint? : Path → Option String)
    (ask : String → m Bool) (known : Answers) (rebuilt : Bool) (newest : UInt64)
    (files : List SourceFile) :
    decideAsking lookup fingerprint? ask known rebuilt newest files =
      ((unasked known files).mapM fun l => (l, ·) <$> ask l) >>= fun new =>
        pure (decideAll lookup fingerprint? (Answers.present (known ++ new)) rebuilt newest
          files) := by
  induction files generalizing known rebuilt newest with
  | nil => simp [decideAsking, decideAll, unasked]
  | cons f files ih =>
    cases hknown : known.get? f.library with
    | some b =>
      have hhere : ∀ new, Answers.present (known ++ new) f.library = known.present f.library :=
        fun new => by rw [Answers.present_append hknown, Answers.present, hknown, Option.getD_some]
      simp [decideAsking, decideAll, Answers.learn, unasked_of_known, hknown, hhere, ih]
    | none =>
      -- the answer that comes first is the one that is kept
      have hhere : ∀ b new, Answers.present (known.add f.library b ++ new) f.library =
          (known.add f.library b).present f.library := fun b new => by
        rw [Answers.present_append (Answers.get?_add_self hknown), Answers.present,
          Answers.get?_add_self hknown, Option.getD_some]
      -- what is asked behind it does not hang on the answer
      have hrest : ∀ b, unasked (known.add f.library true) files =
          unasked (known.add f.library b) files := fun b =>
        List.tail_eq_of_cons_eq
          ((unasked_of_unknown hknown true).symm.trans (unasked_of_unknown hknown b))
      have hadd : ∀ b new, known ++ (f.library, b) :: new = known.add f.library b ++ new :=
        fun b new => by simp [Answers.add]
      rw [unasked_of_unknown hknown true]
      simp only [decideAsking, decideAll, Answers.learn, hknown, List.mapM_cons, bind_map_left,
        bind_assoc, pure_bind, ih, hadd, hhere, ← hrest]

/-- **To filter a plan while asking is to ask for the libraries of its files**, each once, and then
to filter it with the answers. -/
theorem filterAsking_eq (c : CacheContent) (plan : BuildPlan) (backend : String)
    (fingerprint? : Path → Option String) (ask : String → m Bool) :
    c.filterAsking plan backend fingerprint? ask =
      (plan.askedLibraries.mapM fun l => (l, ·) <$> ask l) >>= fun answers =>
        pure (c.filter plan backend fingerprint? (Answers.present answers)) := by
  have hall : unasked [] plan.files = plan.askedLibraries := by
    simp [unasked, BuildPlan.askedLibraries, Answers.get?]
  unfold filterAsking filter
  rw [decideAsking_eq, hall, map_bind]
  simp only [map_pure]
  rfl

/-- To ask what is known already changes nothing. -/
theorem filterAsking_pure (c : CacheContent) (plan : BuildPlan) (backend : String)
    (fingerprint? : Path → Option String) (present : String → Bool) :
    c.filterAsking plan backend fingerprint? (fun l => (pure (present l) : m Bool)) =
      pure (c.filter plan backend fingerprint? present) := by
  have hanswers : ∀ f ∈ plan.files,
      Answers.present (plan.askedLibraries.map fun l => (l, present l)) f.library =
        present f.library := fun f hf => by
    have hasked : f.library ∈ plan.askedLibraries :=
      List.mem_eraseDups.mpr (List.mem_map_of_mem hf)
    rw [Answers.present, Answers.get?_map_of_mem hasked, Option.getD_some]
  rw [filterAsking_eq]
  simp only [map_pure, List.mapM_pure, pure_bind]
  rw [filter_congr hanswers]

end CacheContent

end RtlFlow
