import RtlFlow.Proofs.Host.Files
import RtlFlow.Tool.Launch
import Mathlib.Algebra.Order.Sub.Basic

/-! # What ends a command

A command is over when its process exits, when the deadline passes or when cancellation is asked
for, whichever comes first (`Launch.Ends`), whatever the order is in which the three are looked at
(`Launch.ends_of_select`). Running a command is telling that (`Launch.awaits_run`). -/

namespace RtlFlow.Launch

open FileAction (run_bind run_get)

variable {launch : Launcher} {limits : Limits} {now began turn finish : Nat} {c : ToolCommand}
  {t : FileTree} {p : Process} {e e' : Event} {es : List (Option Event)} {left : Aftermath}
  {status : Except Fault ToolStatus}

/-! ## The first event -/

theorem orSooner_eq_or (e : Event) (e? : Option Event) :
    e.orSooner e? = e ∨ e? = some (e.orSooner e?) := by
  cases e? with
  | none => exact Or.inl rfl
  | some e' =>
    rw [Event.orSooner]
    split
    · exact Or.inr rfl
    · exact Or.inl rfl

theorem time_orSooner_le (e : Event) (e? : Option Event) :
    (e.orSooner e?).time ≤ e.time ∧ ∀ e' ∈ e?, (e.orSooner e?).time ≤ e'.time := by
  cases e? with
  | none => exact ⟨le_rfl, by simp⟩
  | some e' =>
    rw [Event.orSooner]
    by_cases hsooner : e'.time < e.time
    · rw [if_pos hsooner]
      exact ⟨hsooner.le, by simp⟩
    · rw [if_neg hsooner]
      exact ⟨le_rfl, by simpa using hsooner⟩

/-- No event is the earliest one when none comes. -/
theorem earliest_eq_none_iff : earliest es = none ↔ ∀ e, some e ∉ es := by
  induction es with
  | nil => simp [earliest]
  | cons first rest ih =>
    cases first with
    | none => simpa [earliest] using ih
    | some e => exact iff_of_false (Option.some_ne_none _) fun h => h e List.mem_cons_self

theorem mem_of_earliest (h : earliest es = some e) : some e ∈ es := by
  induction es with
  | nil => cases h
  | cons first rest ih =>
    cases first with
    | none => exact List.mem_cons_of_mem _ (ih h)
    | some e₁ =>
      obtain rfl := Option.some.inj h
      rcases orSooner_eq_or e₁ (earliest rest) with hfirst | hrest
      · rw [hfirst]
        exact List.mem_cons_self
      · exact List.mem_cons_of_mem _ (ih hrest)

/-- **No event comes before the earliest one.** -/
theorem time_le_of_earliest (h : earliest es = some e) (he' : some e' ∈ es) :
    e.time ≤ e'.time := by
  induction es generalizing e with
  | nil => cases he'
  | cons first rest ih =>
    cases first with
    | none => exact ih h (by simpa using he')
    | some e₁ =>
      obtain rfl := Option.some.inj h
      obtain ⟨hfirst, hrest⟩ := time_orSooner_le e₁ (earliest rest)
      rcases List.mem_cons.mp he' with heq | hmem
      · rwa [Option.some.inj heq]
      -- behind the first event, the earliest one of the rest stands in between
      · cases hearliest : earliest rest with
        | none => exact absurd hmem (earliest_eq_none_iff.mp hearliest e')
        | some e₂ =>
          rw [← hearliest]
          exact (hrest e₂ hearliest).trans (ih hearliest hmem)

theorem mem_drop_append_take {x : Option Event} : x ∈ es.drop turn ++ es.take turn ↔ x ∈ es := by
  conv_rhs => rw [← List.take_append_drop turn es]
  rw [List.mem_append, List.mem_append, or_comm]

/-! ## The end of a command -/

/-- **A command that began at an instant ends**, with its status, the instant at which it is over
and what is left. It ends by what comes first: every command is bound by the one deadline. -/
inductive Ends (limits : Limits) (p : Process) (began : Nat) :
    Except Fault ToolStatus → Nat → Aftermath → Prop
  /-- The process exits, and neither the deadline nor cancellation comes before that. -/
  | exited {e : Exit} (hexit : p.exit = some e)
      (hdeadline : ∀ d ∈ limits.deadline, began + e.time ≤ max began d)
      (hcancellation : ∀ d ∈ limits.cancellation, began + e.time ≤ max began d) :
      Ends limits p began (e.waited.map fun code => .exited (code.getD (-1))) (began + e.time)
        e.left
  /-- The deadline passes, and the process is killed. -/
  | timedOut {d : Nat} (hdeadline : limits.deadline = some d)
      (hexit : ∀ e ∈ p.exit, max began d ≤ began + e.time)
      (hcancellation : ∀ d' ∈ limits.cancellation, max began d ≤ max began d') :
      Ends limits p began (.ok .timedOut) (max began d) (p.killed (d - began))
  /-- Cancellation is asked for, and the process is killed. -/
  | cancelled {d : Nat} (hcancellation : limits.cancellation = some d)
      (hexit : ∀ e ∈ p.exit, max began d ≤ began + e.time)
      (hdeadline : ∀ d' ∈ limits.deadline, max began d ≤ max began d') :
      Ends limits p began (.ok .cancelled) (max began d) (p.killed (d - began))

/-- The events of a process, one for each of what is waited for. -/
theorem mem_events : some e ∈ p.events limits began ↔
    (∃ x, p.exit = some x ∧ .exit x = e) ∨
      (∃ d, limits.deadline = some d ∧ .deadline (d - began) = e) ∨
      ∃ d, limits.cancellation = some d ∧ .cancellation (d - began) = e := by
  simp only [Process.events, List.mem_cons, List.not_mem_nil, or_false, @eq_comm _ (some e),
    Option.map_eq_some_iff]

/-- **The event that is selected ends the command**, whichever one is looked at first. -/
theorem ends_of_select (h : select turn (p.events limits began) = some e) :
    Ends limits p began e.status (began + e.time) (p.left e) := by
  have hfirst : ∀ {e'}, some e' ∈ p.events limits began → e.time ≤ e'.time := fun he' =>
    time_le_of_earliest h (mem_drop_append_take.mpr he')
  have hinstant : ∀ {d : Nat}, e.time ≤ d - began → began + e.time ≤ max began d := by
    intro d hle
    rw [← add_tsub_eq_max]
    exact Nat.add_le_add_left hle began
  -- nothing that is waited for comes before the event
  have hexit : ∀ x ∈ p.exit, began + e.time ≤ began + x.time := by
    intro x hx
    exact Nat.add_le_add_left (hfirst (mem_events.mpr (Or.inl ⟨x, hx, rfl⟩))) began
  have hdeadline : ∀ d ∈ limits.deadline, began + e.time ≤ max began d := by
    intro d hd
    exact hinstant (hfirst (mem_events.mpr (Or.inr (Or.inl ⟨d, hd, rfl⟩))))
  have hcancellation : ∀ d ∈ limits.cancellation, began + e.time ≤ max began d := by
    intro d hd
    exact hinstant (hfirst (mem_events.mpr (Or.inr (Or.inr ⟨d, hd, rfl⟩))))
  obtain ⟨x, hx, rfl⟩ | ⟨d, hd, rfl⟩ | ⟨d, hd, rfl⟩ :=
    mem_events.mp (mem_drop_append_take.mp (mem_of_earliest h))
  · exact .exited hx hdeadline hcancellation
  · have hfinish : began + (Event.deadline (d - began)).time = max began d := add_tsub_eq_max
    rw [hfinish] at hexit hcancellation ⊢
    exact .timedOut hd hexit hcancellation
  · have hfinish : began + (Event.cancellation (d - began)).time = max began d := add_tsub_eq_max
    rw [hfinish] at hexit hdeadline ⊢
    exact .cancelled hd hexit hdeadline

/-- Nothing is selected when nothing ever ends the command. -/
theorem eq_none_of_select (h : select turn (p.events limits began) = none) :
    p.exit = none ∧ limits.deadline = none ∧ limits.cancellation = none := by
  have hnone : ∀ e, some e ∉ p.events limits began := fun e he =>
    earliest_eq_none_iff.mp h e (mem_drop_append_take.mpr he)
  refine ⟨?_, ?_, ?_⟩ <;> refine Option.eq_none_iff_forall_not_mem.mpr fun x hx => ?_
  · exact hnone _ (mem_events.mpr (Or.inl ⟨x, hx, rfl⟩))
  · exact hnone _ (mem_events.mpr (Or.inr (Or.inl ⟨x, hx, rfl⟩)))
  · exact hnone _ (mem_events.mpr (Or.inr (Or.inr ⟨x, hx, rfl⟩)))

/-- **What waiting for a command gives**, and the files that it leaves. -/
inductive Awaits (launch : Launcher) (limits : Limits) (now : Nat) (c : ToolCommand)
    (t : FileTree) : Except NoResult StepOutput → FileTree → Prop
  /-- The machine cannot start the command. -/
  | noStart {fault : Fault} (hspawn : launch.spawn now c t = .error fault) :
      Awaits launch limits now c t (.error (notInvoked c fault.message)) t
  /-- Nothing ever ends it. -/
  | endless {p : Process} (hspawn : launch.spawn now c t = .ok p)
      (hnone : p.exit = none ∧ limits.deadline = none ∧ limits.cancellation = none) :
      Awaits launch limits now c t (.error .endless) t
  /-- It is over, but the machine cannot tell how. -/
  | lost {p : Process} {fault : Fault} {finish : Nat} {left : Aftermath}
      (hspawn : launch.spawn now c t = .ok p)
      (hends : Ends limits p now (.error fault) finish left) :
      Awaits launch limits now c t (.error (notInvoked c fault.message)) (left.files 0)
  /-- It has ended. -/
  | ended {p : Process} {status : ToolStatus} {finish : Nat} {left : Aftermath}
      (hspawn : launch.spawn now c t = .ok p) (hends : Ends limits p now (.ok status) finish left) :
      Awaits launch limits now c t (.ok (outputOf status finish left)) (left.files left.drained)

/-- **Waiting for a command** gives what ends it. -/
theorem awaits_run (launch : Launcher) (limits : Limits) (now : Nat) (c : ToolCommand)
    (t : FileTree) : Awaits launch limits now c t ((await launch limits now c).run t).1
      ((await launch limits now c).run t).2 := by
  rw [await, run_bind, run_get]
  dsimp only
  cases hspawn : launch.spawn now c t with
  | error fault => exact .noStart hspawn
  | ok p =>
    dsimp only
    cases hselect : select (launch.turn now) (p.events limits now) with
    | none => exact .endless hspawn (eq_none_of_select hselect)
    | some e =>
      have hends := ends_of_select hselect
      dsimp only
      cases hstatus : e.status with
      | error fault =>
        rw [hstatus] at hends
        exact .lost hspawn hends
      | ok status =>
        rw [hstatus] at hends
        exact .ended hspawn hends

end RtlFlow.Launch
