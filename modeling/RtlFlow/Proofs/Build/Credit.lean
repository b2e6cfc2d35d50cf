import RtlFlow.Proofs.Build.Attempts
import RtlFlow.Proofs.Cache.Decisions

/-! # Which attempts stand behind a cache

A cache is the work of attempts to compile files. `Earned` is the closure under which it comes
about, with the attempts in the order in which they were made. Behind every entry stands the last
attempt on its file that was remembered (`Earned.exists_lastRemembered`), and generations are in the
order of these attempts (`Earned.generation_lt`). -/

namespace RtlFlow

/-! ## Attempts on a file -/

namespace Attempt

/-- **An attempt on a file** with a backend. -/
def IsOn (a : Attempt) (name : String) (path : Path) : Prop :=
  a.backend = name ∧ a.file.file.path.components = path.components

/-- Whether an attempt is remembered: it is a success, and its file had a fingerprint. -/
def isRemembered (a : Attempt) : Bool := a.ending.isPassed && a.file.fingerprint.isSome

/-- What an attempt leaves in the cache: an entry, a gap, or nothing. -/
theorem leave_cases (now : Timestamp) (a : Attempt) (c : CacheContent) :
    (∃ fingerprint outcome, a.isRemembered = true ∧ a.file.fingerprint = some fingerprint ∧
        a.leave now c = c.record a.backend a.file.file.path fingerprint outcome now) ∨
      (a.isRemembered = false ∧ a.ending = .failed ∧
        a.leave now c = c.forget a.backend a.file.file.path) ∨
      (a.isRemembered = false ∧ a.ending ≠ .failed ∧ a.leave now c = c) := by
  unfold leave isRemembered
  cases a.ending with
  | passed outcome =>
    cases a.file.fingerprint with
    | some fingerprint => exact Or.inl ⟨fingerprint, outcome, rfl, rfl, rfl⟩
    | none => exact Or.inr (Or.inr ⟨rfl, by simp, rfl⟩)
  | failed => exact Or.inr (Or.inl ⟨rfl, rfl, rfl⟩)
  | cancelled => exact Or.inr (Or.inr ⟨rfl, by simp, rfl⟩)
  | notStarted => exact Or.inr (Or.inr ⟨rfl, by simp, rfl⟩)

/-- An attempt on another file leaves an entry alone. -/
theorem find?_leave_of_not_isOn {name : String} {path : Path} {a : Attempt} (now : Timestamp)
    (c : CacheContent) (h : ¬ a.IsOn name path) :
    (a.leave now c).find? name path = c.find? name path := by
  have hne : ¬ (name = a.backend ∧ path.components = a.file.file.path.components) :=
    fun hon => h ⟨hon.1.symm, hon.2.symm⟩
  rcases a.leave_cases now c with ⟨fingerprint, outcome, -, -, heq⟩ | ⟨-, -, heq⟩ | ⟨-, -, heq⟩ <;>
    rw [heq]
  · rw [CacheContent.find?_record, if_neg hne]
  · rw [CacheContent.find?_forget, if_neg hne]

/-- Attempts on other files leave an entry alone. -/
theorem find?_foldl_leave {name : String} {path : Path} {as : List Attempt} (now : Timestamp)
    (c : CacheContent) (h : ∀ a ∈ as, ¬ a.IsOn name path) :
    (as.foldl (fun c a => a.leave now c) c).find? name path = c.find? name path := by
  induction as generalizing c with
  | nil => rfl
  | cons a as ih =>
    rw [List.foldl_cons, ih _ fun b hb => h b (List.mem_cons_of_mem _ hb),
      find?_leave_of_not_isOn now c (h a (List.mem_cons_self ..))]

/-- An attempt on a file that is not remembered puts no entry in. -/
theorem find?_of_find?_leave {name : String} {path : Path} {a : Attempt} {e : CacheEntry}
    (now : Timestamp) {c : CacheContent} (ha : a.IsOn name path → a.isRemembered = false)
    (h : (a.leave now c).find? name path = some e) : c.find? name path = some e := by
  by_cases hon : a.IsOn name path
  · rcases a.leave_cases now c with ⟨fingerprint, outcome, hremembered, -, -⟩ | ⟨-, -, heq⟩ |
      ⟨-, -, heq⟩
    · simp [ha hon] at hremembered
    · rw [heq, CacheContent.find?_forget] at h
      split at h
      · simp at h
      · exact h
    · rwa [heq] at h
  · rwa [find?_leave_of_not_isOn now c hon] at h

/-- Attempts on a file none of which is remembered put no entry in. -/
theorem find?_of_find?_foldl_leave {name : String} {path : Path} {as : List Attempt}
    {e : CacheEntry} (now : Timestamp) {c : CacheContent}
    (has : ∀ a ∈ as, a.IsOn name path → a.isRemembered = false)
    (h : (as.foldl (fun c a => a.leave now c) c).find? name path = some e) :
    c.find? name path = some e := by
  induction as generalizing c with
  | nil => exact h
  | cons a as ih =>
    exact find?_of_find?_leave now (has a (List.mem_cons_self ..))
      (ih (fun b hb => has b (List.mem_cons_of_mem _ hb)) h)

end Attempt

/-- **The last attempt on a file that was remembered**, at its place in a row of attempts, when the
file was not forgotten since. -/
structure LastRemembered (log : List Attempt) (name : String) (path : Path) (i : Nat)
    (a : Attempt) : Prop where
  /-- The place. -/
  getElem : log[i]? = some a
  /-- It is an attempt on the file. -/
  isOn : a.IsOn name path
  /-- It was remembered. -/
  remembered : a.isRemembered = true
  /-- No later one was. -/
  last : ∀ j b, i < j → log[j]? = some b → b.IsOn name path → b.isRemembered = false
  /-- No later one has failed. -/
  not_failed : ∀ j b, i < j → log[j]? = some b → b.IsOn name path → b.ending ≠ .failed

namespace LastRemembered

variable {log : List Attempt} {name : String} {path : Path} {i j : Nat} {a b : Attempt}

theorem lt_length (h : LastRemembered log name path i a) : i < log.length :=
  (List.getElem?_eq_some_iff.mp h.getElem).1

/-- There is one such place. -/
theorem unique (hi : LastRemembered log name path i a) (hj : LastRemembered log name path j b) :
    i = j := by
  rcases lt_trichotomy i j with h | h | h
  · simpa [hj.remembered] using hi.last j b h hj.getElem hj.isOn
  · exact h
  · simpa [hi.remembered] using hj.last i a h hi.getElem hi.isOn

/-- An attempt that is remembered becomes the last one. -/
theorem append_self (log : List Attempt) (hon : a.IsOn name path) (ha : a.isRemembered = true) :
    LastRemembered (log ++ [a]) name path log.length a where
  getElem := by simp
  isOn := hon
  remembered := ha
  last j b hj hb := by
    have hlt := (List.getElem?_eq_some_iff.mp hb).1
    rw [List.length_append, List.length_singleton] at hlt
    omega
  not_failed j b hj hb := by
    have hlt := (List.getElem?_eq_some_iff.mp hb).1
    rw [List.length_append, List.length_singleton] at hlt
    omega

/-- A place behind all places of a row is that of the attempt put behind it. -/
theorem getElem?_append_singleton (h : (log ++ [a])[j]? = some b) :
    log[j]? = some b ∨ j = log.length ∧ b = a := by
  rcases Nat.lt_or_ge j log.length with hj | hj
  · exact Or.inl (by rwa [List.getElem?_append_left hj] at h)
  · have hlt := (List.getElem?_eq_some_iff.mp h).1
    rw [List.length_append, List.length_singleton] at hlt
    obtain rfl : j = log.length := by omega
    simp at h
    exact Or.inr ⟨rfl, h.symm⟩

/-- One more attempt leaves the last one in place if it is neither remembered nor a failure. -/
theorem append (h : LastRemembered log name path i a)
    (hb : b.IsOn name path → b.isRemembered = false ∧ b.ending ≠ .failed) :
    LastRemembered (log ++ [b]) name path i a where
  getElem := by rw [List.getElem?_append_left h.lt_length, h.getElem]
  isOn := h.isOn
  remembered := h.remembered
  last j x hj hx hon := by
    rcases getElem?_append_singleton hx with hx | ⟨-, rfl⟩
    · exact h.last j x hj hx hon
    · exact (hb hon).1
  not_failed j x hj hx hon := by
    rcases getElem?_append_singleton hx with hx | ⟨-, rfl⟩
    · exact h.not_failed j x hj hx hon
    · exact (hb hon).2

end LastRemembered

/-! ## Caches and the attempts behind them -/

/-- **A cache that is the work of attempts**, from the empty one on; it may be emptied in
between. -/
inductive Earned : List Attempt → CacheContent → Prop
  /-- The empty cache. -/
  | empty : Earned [] {}
  /-- One more attempt. -/
  | attempt {log : List Attempt} {c : CacheContent} (h : Earned log c) (a : Attempt)
      (now : Timestamp) : Earned (log ++ [a]) (a.leave now c)
  /-- Everything is forgotten. -/
  | clear {log : List Attempt} {c : CacheContent} (h : Earned log c) : Earned log {}

namespace Earned

variable {log : List Attempt} {c : CacheContent} {name name' : String} {path path' : Path}
  {e e' : CacheEntry} {i i' : Nat} {a a' : Attempt}

theorem foldl (h : Earned log c) (now : Timestamp) (more : List Attempt) :
    Earned (log ++ more) (more.foldl (fun c a => a.leave now c) c) := by
  induction more generalizing log c with
  | nil => rwa [List.append_nil]
  | cons a more ih =>
    rw [List.append_cons]
    exact ih (h.attempt a now)

/-- An attempt adds at most one to the number of compiles that were remembered. -/
theorem reachable (h : Earned log c) : ∃ n ≤ log.length, c.Reachable n := by
  induction h with
  | empty => exact ⟨0, Nat.le_refl 0, .empty⟩
  | @attempt log c _ a now ih =>
    obtain ⟨n, hn, hreach⟩ := ih
    rw [List.length_append, List.length_singleton]
    rcases a.leave_cases now c with
      ⟨fingerprint, outcome, -, -, heq⟩ | ⟨-, -, heq⟩ | ⟨-, -, heq⟩ <;> rw [heq]
    · exact ⟨n + 1, by omega, hreach.record ..⟩
    · exact ⟨n, by omega, hreach.forget ..⟩
    · exact ⟨n, by omega, hreach⟩
  | clear _ ih =>
    obtain ⟨n, hn, hreach⟩ := ih
    exact ⟨n, hn, hreach.clear⟩

/-- **An entry behind an attempt** is that of the attempt, or it was there before and the attempt
has left it alone. -/
theorem find?_leave (now : Timestamp) (h : (a.leave now c).find? name path = some e) :
    (a.IsOn name path ∧ a.isRemembered = true ∧ a.file.fingerprint = some e.fingerprint ∧
        e.generation = c.lastGeneration + 1) ∨
      (c.find? name path = some e ∧
        (a.IsOn name path → a.isRemembered = false ∧ a.ending ≠ .failed)) := by
  rcases a.leave_cases now c with
    ⟨fingerprint, outcome, hremembered, hfingerprint, heq⟩ | ⟨-, -, heq⟩ |
      ⟨hremembered, hending, heq⟩ <;> rw [heq] at h
  · rw [CacheContent.find?_record] at h
    split at h
    · rename_i hon
      obtain rfl := Option.some.inj h
      exact Or.inl ⟨⟨hon.1.symm, hon.2.symm⟩, hremembered, hfingerprint, rfl⟩
    · rename_i hon
      exact Or.inr ⟨h, fun hon' => absurd ⟨hon'.1.symm, hon'.2.symm⟩ hon⟩
  · rw [CacheContent.find?_forget] at h
    split at h
    · simp at h
    · rename_i hon
      exact Or.inr ⟨h, fun hon' => absurd ⟨hon'.1.symm, hon'.2.symm⟩ hon⟩
  · exact Or.inr ⟨h, fun _ => ⟨hremembered, hending⟩⟩

/-- **Behind every entry stands the last attempt on its file that was remembered.** -/
theorem exists_lastRemembered (h : Earned log c) (he : c.find? name path = some e) :
    ∃ i a, LastRemembered log name path i a ∧ a.file.fingerprint = some e.fingerprint := by
  induction h with
  | empty => simp at he
  | attempt _ a now ih =>
    rcases find?_leave now he with ⟨hon, hremembered, hfingerprint, -⟩ | ⟨he, hquiet⟩
    · exact ⟨_, a, .append_self _ hon hremembered, hfingerprint⟩
    · obtain ⟨i, b, hlast, hfingerprint⟩ := ih he
      exact ⟨i, b, hlast.append hquiet, hfingerprint⟩
  | clear => simp at he

/-- **Generations are in the order of the attempts**, as long as the counter of generations has not
gone round. -/
theorem generation_lt (h : Earned log c) (hroom : log.length < UInt64.size)
    (he : c.find? name path = some e) (he' : c.find? name' path' = some e')
    (hi : LastRemembered log name path i a) (hi' : LastRemembered log name' path' i' a')
    (hlt : i < i') : e.generation.toNat < e'.generation.toNat := by
  induction h generalizing e e' i i' a a' with
  | empty => simp at he
  | @attempt log c h x now ih =>
    rw [List.length_append, List.length_singleton] at hroom
    -- an entry that was there before keeps its place
    have hold : ∀ {name path e i a}, c.find? name path = some e →
        (x.IsOn name path → x.isRemembered = false ∧ x.ending ≠ .failed) →
        LastRemembered (log ++ [x]) name path i a → ∃ a, LastRemembered log name path i a := by
      intro name path e i a he hquiet hi
      obtain ⟨j, b, hj, -⟩ := h.exists_lastRemembered he
      obtain rfl := (hj.append hquiet).unique hi
      exact ⟨b, hj⟩
    rcases find?_leave now he with ⟨hon, hremembered, -, -⟩ | ⟨he, hquiet⟩
    · -- the attempt itself is the last one, so that none comes behind it
      have hlength := (LastRemembered.append_self log hon hremembered).unique hi
      have hlt' := hi'.lt_length
      rw [List.length_append, List.length_singleton] at hlt'
      omega
    · rcases find?_leave now he' with ⟨-, -, -, hgeneration⟩ | ⟨he', hquiet'⟩
      · -- a generation that is given out is greater than all that were
        obtain ⟨n, hn, hreach⟩ := h.reachable
        obtain ⟨hlast, hle⟩ := hreach.generation_le (by omega)
        rw [hgeneration, CacheContent.toNat_succ hlast (by omega)]
        exact Nat.lt_succ_of_le (hle name path e he)
      · obtain ⟨b, hb⟩ := hold he hquiet hi
        obtain ⟨b', hb'⟩ := hold he' hquiet' hi'
        exact ih (by omega) he he' hb hb' hlt
  | clear => simp at he

end Earned

end RtlFlow
