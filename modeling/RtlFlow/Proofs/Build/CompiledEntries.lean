import RtlFlow.Proofs.Build.CacheFrame

/-! # The entries of files that were compiled

A file that an operation reports as compiled has passed, but what is remembered of it behind the
operation need not tell of that compile. If the file had a fingerprint when the decision on it was
made, the operation has recorded an entry with that fingerprint, and it is the one that is found. If
the file could not be read then, nothing is recorded, and an entry of an earlier operation stays
(`Project.entry_of_compiled`), so that it is not always the last compile that is remembered
(`Project.not_forall_recorded`). -/

namespace RtlFlow

open CacheContent

variable {now : Timestamp} {name : String} {path : Path} {c : CacheContent} {a : Attempt}
  {as : List Attempt} {e : CacheEntry}

/-! ## The entry that an attempt records -/

namespace Attempt

/-- **The entry that an attempt records** in a cache: it has one if it is a success on a file that
had a fingerprint. -/
def recorded (now : Timestamp) (c : CacheContent) (a : Attempt) : Option CacheEntry :=
  match a.ending, a.file.fingerprint with
  | .passed outcome, some fingerprint => some ⟨fingerprint, outcome, now, c.lastGeneration + 1⟩
  | _, _ => none

/-- A success on a file with a fingerprint records an entry with it, which is found behind it. -/
theorem exists_recorded (now : Timestamp) (c : CacheContent) (hon : a.IsOn name path)
    (ha : a.isRemembered = true) :
    ∃ e, a.recorded now c = some e ∧ a.file.fingerprint = some e.fingerprint ∧ e.recordedAt = now ∧
      (a.leave now c).find? name path = some e := by
  rcases hending : a.ending with _ | _ | _ | outcome <;>
    rcases hfingerprint : a.file.fingerprint with _ | fingerprint <;>
    simp [isRemembered, hending, hfingerprint, Ending.isPassed] at ha
  refine ⟨⟨fingerprint, outcome, now, c.lastGeneration + 1⟩, ?_, rfl, rfl, ?_⟩
  · simp [recorded, hending, hfingerprint]
  · simp only [leave, hending, hfingerprint]
    rw [find?_record, if_pos ⟨hon.1.symm, hon.2.symm⟩]

/-- An attempt that records an entry is remembered. -/
theorem isRemembered_of_recorded (h : a.recorded now c = some e) : a.isRemembered = true := by
  unfold recorded at h
  split at h
  · rename_i outcome fingerprint hending hfingerprint
    simp [isRemembered, hending, hfingerprint, Ending.isPassed]
  · cases h

/-- A success on a file without a fingerprint leaves the cache as it is. -/
theorem leave_of_unread (now : Timestamp) (c : CacheContent) (hpassed : a.ending.isPassed = true)
    (hunread : a.file.fingerprint = none) : a.leave now c = c := by
  rcases a.leave_cases now c with ⟨fingerprint, outcome, -, hread, -⟩ | ⟨-, hfailed, -⟩ |
    ⟨-, -, heq⟩
  · rw [hunread] at hread
    cases hread
  · rw [hfailed] at hpassed
    cases hpassed
  · exact heq

end Attempt

/-! ## The entry that a row of attempts records -/

/-- **A row of attempts records an entry for a file**: one of them is on the file, and records it in
the cache to which those in front of it have led. -/
inductive RecordedBy (now : Timestamp) (name : String) (path : Path) :
    CacheContent → List Attempt → CacheEntry → Prop
  /-- The first attempt records it. -/
  | here {c : CacheContent} {a : Attempt} {as : List Attempt} {e : CacheEntry}
      (hon : a.IsOn name path) (he : a.recorded now c = some e) :
      RecordedBy now name path c (a :: as) e
  /-- One of the others does. -/
  | later {c : CacheContent} {a : Attempt} {as : List Attempt} {e : CacheEntry}
      (h : RecordedBy now name path (a.leave now c) as e) : RecordedBy now name path c (a :: as) e

namespace RecordedBy

/-- Behind an entry that is recorded stands an attempt that is remembered. -/
theorem exists_attempt (h : RecordedBy now name path c as e) :
    ∃ a ∈ as, a.IsOn name path ∧ a.isRemembered = true ∧ e.recordedAt = now := by
  induction h with
  | @here c a as e hon he =>
    have ha := Attempt.isRemembered_of_recorded he
    obtain ⟨e', he', -, hnow, -⟩ := Attempt.exists_recorded now c hon ha
    obtain rfl := Option.some.inj (he.symm.trans he')
    exact ⟨a, List.mem_cons_self .., hon, ha, hnow⟩
  | later _ ih =>
    obtain ⟨a, ha, hrest⟩ := ih
    exact ⟨a, List.mem_cons_of_mem _ ha, hrest⟩

/-- **An attempt that is remembered makes its row record an entry**, which is found behind the row,
if the row has no two attempts on one file. -/
theorem of_mem (hdistinct : as.Pairwise fun a b =>
      a.file.file.path.components ≠ b.file.file.path.components)
    (ha : a ∈ as) (hon : a.IsOn name path) (hremembered : a.isRemembered = true) :
    ∃ e, RecordedBy now name path c as e ∧ a.file.fingerprint = some e.fingerprint ∧
      (as.foldl (fun c a => a.leave now c) c).find? name path = some e := by
  induction as generalizing c with
  | nil => cases ha
  | cons x as ih =>
    obtain ⟨hfirst, hrest⟩ := List.pairwise_cons.mp hdistinct
    rcases List.mem_cons.mp ha with rfl | ha
    · obtain ⟨e, he, hfingerprint, -, hfound⟩ := Attempt.exists_recorded now c hon hremembered
      refine ⟨e, .here hon he, hfingerprint, ?_⟩
      -- the attempts behind it are on other files
      rw [List.foldl_cons, Attempt.find?_foldl_leave, hfound]
      exact fun b hb hon' => hfirst b hb (hon.2.trans hon'.2.symm)
    · obtain ⟨e, he, hfingerprint, hfound⟩ := ih hrest ha (c := x.leave now c)
      exact ⟨e, .later he, hfingerprint, hfound⟩

end RecordedBy

/-- In a row with no two attempts on one file, those on a file are one. -/
theorem Attempt.eq_of_isOn {b : Attempt} (hdistinct : as.Pairwise fun a b =>
      a.file.file.path.components ≠ b.file.file.path.components)
    (ha : a ∈ as) (hon : a.IsOn name path) (hb : b ∈ as) (hon' : b.IsOn name path) : a = b := by
  have hnodup : (as.map (·.file.file.path.components)).Nodup := List.pairwise_map.mpr hdistinct
  exact List.inj_on_of_nodup_map hnodup ha hb (hon.2.trans hon'.2.symm)

/-- **A success on a file without a fingerprint makes its row record nothing for the file**, and
leave what was remembered of it, if the row has no two attempts on one file. -/
theorem Attempt.not_recordedBy_of_unread (hdistinct : as.Pairwise fun a b =>
      a.file.file.path.components ≠ b.file.file.path.components)
    (ha : a ∈ as) (hon : a.IsOn name path) (hpassed : a.ending.isPassed = true)
    (hunread : a.file.fingerprint = none) :
    (∀ e, ¬ RecordedBy now name path c as e) ∧
      (as.foldl (fun c a => a.leave now c) c).find? name path = c.find? name path := by
  have hone : ∀ b ∈ as, b.IsOn name path → b = a := fun b hb hon' =>
    Attempt.eq_of_isOn hdistinct hb hon' ha hon
  refine ⟨fun e he => ?_, ?_⟩
  · obtain ⟨b, hb, hon', hremembered, -⟩ := he.exists_attempt
    obtain rfl := hone b hb hon'
    simp [isRemembered, hunread] at hremembered
  · refine find?_foldl_of_eq (fun b hb c => ?_) c
    by_cases hon' : b.IsOn name path
    · obtain rfl := hone b hb hon'
      rw [leave_of_unread now c hpassed hunread]
    · exact find?_leave_of_not_isOn now c hon'

/-! ## Operations -/

namespace Project

variable {ρ : Type} {p : Project} {run : Runner ρ} {r : OperationRequest} {clock : Clock}
  {cache : BuildCache} {session : Session ρ}

/-- An operation makes no two attempts on one file. -/
theorem pairwise_attemptsOf (hc : p.catalog.Registered) (run : Runner ρ) (r : OperationRequest)
    (clock : Clock) (cache : BuildCache) (session : Session ρ) :
    (p.attemptsOf run r clock cache session).Pairwise fun a b =>
      a.file.file.path.components ≠ b.file.file.path.components := by
  cases hphase : p.phase r cache.content session.files with
  | error e => simp [attemptsOf, hphase]
  | ok ph =>
    rw [attemptsOf_eq run clock hphase]
    have hfiles := (attempts_first_files p run ph.backend r clock ph.filtered.toBuild
      (ph.start cache session)).sublist.trans List.filter_sublist
    exact (List.pairwise_map (f := Attempt.file) (R := fun f g =>
      f.file.path.components ≠ g.file.path.components)).mp
        ((pairwise_filtered hc hphase).sublist hfiles)

/-- A file is compiled by an operation when an attempt on it has passed. -/
theorem mem_compiled_operate :
    path ∈ (p.operate run r clock cache session).outcome.compiled ↔
      ∃ a ∈ p.attemptsOf run r clock cache session,
        a.ending.isPassed = true ∧ a.file.file.path = path := by
  rw [compiled_operate, List.mem_flatMap]
  refine exists_congr fun a => and_congr_right fun _ => ?_
  cases hpassed : a.ending.isPassed
  · simp [Attempt.credited, hpassed]
  · simpa [Attempt.credited, hpassed] using eq_comm

/-- **The entry of a file that an operation has compiled**, under the backend of the operation,
however the operation ends and whether the cache could be stored or not. If the file had a
fingerprint when the operation began, it is the entry that the operation has recorded, and has that
fingerprint. If it had none, the operation has recorded no entry for it, and what was remembered of
it before is what is remembered of it. -/
theorem entry_of_compiled (hc : p.catalog.Registered) (run : Runner ρ) (r : OperationRequest)
    (clock : Clock) (cache : BuildCache) (session : Session ρ)
    (hpath : path ∈ (p.operate run r clock cache session).outcome.compiled) :
    ∃ b, p.selectBackend r = .ok b ∧
      match session.files.fingerprint path with
      | .ok fingerprint => ∃ e, RecordedBy clock.now b.name path cache.content
            (p.attemptsOf run r clock cache session) e ∧ e.fingerprint = fingerprint ∧
          (p.operate run r clock cache session).cache.content.find? b.name path = some e
      | .error _ =>
          (∀ e, ¬ RecordedBy clock.now b.name path cache.content
            (p.attemptsOf run r clock cache session) e) ∧
          (p.operate run r clock cache session).cache.content.find? b.name path =
            cache.content.find? b.name path := by
  -- what becomes of the entry is told by the one attempt on the file, which has passed
  obtain ⟨a, ha, hpassed, rfl⟩ := mem_compiled_operate.mp hpath
  obtain ⟨b, hbackend, hname, -, hfingerprint⟩ := mem_attemptsOf ha
  have hdistinct := pairwise_attemptsOf hc run r clock cache session
  have hon : a.IsOn b.name a.file.file.path := ⟨hname, rfl⟩
  refine ⟨b, hbackend, ?_⟩
  rw [content_operate]
  cases hread : session.files.fingerprint a.file.file.path with
  | ok fingerprint =>
    rw [hread] at hfingerprint
    have hremembered : a.isRemembered = true := by
      simp [Attempt.isRemembered, hpassed, hfingerprint, Except.toOption]
    obtain ⟨e, he, hsame, hfound⟩ := RecordedBy.of_mem hdistinct ha hon hremembered
    exact ⟨e, he, Option.some.inj (hsame.symm.trans hfingerprint), hfound⟩
  | error err =>
    rw [hread] at hfingerprint
    exact Attempt.not_recordedBy_of_unread hdistinct ha hon hpassed hfingerprint

/-- The files of the project of two files without the first one. -/
def secondFile : FileTree := ⟨[(["p"], .directory), (["p", "b.v"], .file ⟨#[]⟩ false)], []⟩

/-- A compile of the project of two files when the first one is gone. -/
def runSecond : Progress (List Int) :=
  pair.operate codeRunner ⟨.compile, none, none, {}⟩ ⟨⟨"later"⟩, "later"⟩ ⟨.memory none, pairCache⟩
    ⟨secondFile, false, []⟩

theorem compiled_runSecond : runSecond.outcome.compiled = [⟨"/p/a.v"⟩, ⟨"/p/b.v"⟩] := by
  decide +kernel

/-- Both compiles pass; the file that is there has an entry of this compile, and the one that is
gone has the entry that it had. -/
theorem entry_of_compiled_pair :
    (∃ e, runSecond.cache.content.find? "sim" ⟨"/p/b.v"⟩ = some e ∧ e.recordedAt = ⟨"later"⟩) ∧
      runSecond.cache.content.find? "sim" ⟨"/p/a.v"⟩ = some ⟨"/p/a.v", .passed, ⟨"now"⟩, 1⟩ := by
  have hselect : pair.selectBackend ⟨.compile, none, none, {}⟩ = .ok (steadyBackend "sim") := rfl
  constructor
  · have hmem : ⟨"/p/b.v"⟩ ∈ runSecond.outcome.compiled := by simp [compiled_runSecond]
    obtain ⟨b, hbackend, hentry⟩ := entry_of_compiled registered_pair codeRunner _ _ _ _ hmem
    obtain rfl := Except.ok.inj (hselect.symm.trans hbackend)
    obtain ⟨fingerprint, hread⟩ : ∃ fingerprint,
        secondFile.fingerprint ⟨"/p/b.v"⟩ = .ok fingerprint := ⟨_, rfl⟩
    simp only [hread] at hentry
    obtain ⟨e, he, -, hfound⟩ := hentry
    obtain ⟨-, -, -, -, hnow⟩ := he.exists_attempt
    exact ⟨e, hfound, hnow⟩
  · have hmem : ⟨"/p/a.v"⟩ ∈ runSecond.outcome.compiled := by simp [compiled_runSecond]
    obtain ⟨b, hbackend, hentry⟩ := entry_of_compiled registered_pair codeRunner _ _ _ _ hmem
    obtain rfl := Except.ok.inj (hselect.symm.trans hbackend)
    obtain ⟨err, hread⟩ : ∃ err, secondFile.fingerprint ⟨"/p/a.v"⟩ = .error err := ⟨_, rfl⟩
    simp only [hread] at hentry
    exact hentry.2

/-- **What is remembered of a file that an operation has compiled was recorded by the
operation.** -/
def RecordedOnly : Prop :=
  ∀ (ρ : Type) (p : Project) (run : Runner ρ) (r : OperationRequest) (clock : Clock)
    (cache : BuildCache) (session : Session ρ), p.catalog.Registered →
      ∀ path ∈ (p.operate run r clock cache session).outcome.compiled,
        ∀ b, p.selectBackend r = .ok b →
          ∀ e, (p.operate run r clock cache session).cache.content.find? b.name path = some e →
            RecordedBy clock.now b.name path cache.content
              (p.attemptsOf run r clock cache session) e

/-- **The entry of an earlier compile stays** behind a compile of a file that is gone. -/
theorem not_forall_recorded : ¬ RecordedOnly := by
  intro h
  have hfound : runSecond.cache.content.find? "sim" ⟨"/p/a.v"⟩ =
      some ⟨"/p/a.v", .passed, ⟨"now"⟩, 1⟩ := by
    decide +kernel
  have hmem : ⟨"/p/a.v"⟩ ∈ runSecond.outcome.compiled := by simp [compiled_runSecond]
  have hrecorded := h _ pair codeRunner _ _ _ _ registered_pair _ hmem (steadyBackend "sim") rfl _
    hfound
  -- what is recorded has the time of the operation
  obtain ⟨-, -, -, -, hnow⟩ := hrecorded.exists_attempt
  exact absurd hnow (by decide)

end Project

end RtlFlow
