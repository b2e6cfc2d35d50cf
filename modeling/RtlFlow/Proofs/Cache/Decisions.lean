import RtlFlow.Cache.Filter
import RtlFlow.Proofs.Cache.Entries

/-! # Which files are skipped

The files that are skipped stand at the front of the plan. `CleanRun` describes them: each has the
content that was last compiled, its library is there, and the generations of their entries do not
go down. Behind them stands a file of which one of these fails, and that file and all others are
compiled. That the decisions are just this is shown by `CutsAt.skipped_filter` and
`CutsAt.toBuild_filter`. -/

namespace RtlFlow

namespace CacheContent

variable {lookup : Path → Option CacheEntry} {fingerprint? : Path → Option String}
  {present : String → Bool}

/-- **A file that need not be compiled**, where `newest` is the greatest generation of the files
before it. -/
structure Clean (lookup : Path → Option CacheEntry) (fingerprint? : Path → Option String)
    (present : String → Bool) (newest : UInt64) (f : SourceFile) (e : CacheEntry) : Prop where
  /-- Its last compile is remembered. -/
  entry : lookup f.path = some e
  /-- It has the content that was compiled. -/
  current : fingerprint? f.path = some e.fingerprint
  /-- Its library is there. -/
  library : present f.library = true
  /-- No file before it was compiled later. -/
  not_older : newest ≤ e.generation

/-- **Files none of which need be compiled**, one after the other; the numbers are the greatest
generations before and behind them. -/
inductive CleanRun (lookup : Path → Option CacheEntry) (fingerprint? : Path → Option String)
    (present : String → Bool) : UInt64 → List SourceFile → UInt64 → Prop
  /-- No file. -/
  | nil (newest : UInt64) : CleanRun lookup fingerprint? present newest [] newest
  /-- One more file in front. -/
  | cons {newest last : UInt64} {f : SourceFile} {e : CacheEntry} {files : List SourceFile}
      (clean : Clean lookup fingerprint? present newest f e)
      (rest : CleanRun lookup fingerprint? present e.generation files last) :
      CleanRun lookup fingerprint? present newest (f :: files) last

/-! ## The decision on a file -/

/-- A file is skipped when it is clean and no file before it is compiled. -/
theorem decision_eq_skip_iff {newest : UInt64} {f : SourceFile} {rebuilt : Bool} :
    decision (fingerprint? f.path) (lookup f.path) (present f.library) rebuilt newest = .skip ↔
      rebuilt = false ∧ ∃ e, Clean lookup fingerprint? present newest f e := by
  constructor
  · intro h
    unfold decision at h
    split at h
    · simp at h
    · simp at h
    · rename_i fingerprint e hcurrent hentry
      split_ifs at h with hne hpresent hrebuilt hold
      refine ⟨by simpa using hrebuilt, e, hentry, ?_, by simpa using hpresent, ?_⟩
      · rw [hcurrent, not_not.mp hne]
      · exact UInt64.not_lt.mp hold
  · rintro ⟨rfl, e, clean⟩
    simp [decision, clean.entry, clean.current, clean.library, UInt64.not_lt.mpr clean.not_older]

theorem isBuild_eq_false_iff {a : BuildAction} : a.isBuild = false ↔ a = .skip := by
  cases a <;> simp [BuildAction.isBuild]

/-- A generation is less than the greater of two when it is less than one of them. -/
theorem lt_max_generation {g m n : UInt64} : g < max m n ↔ g < m ∨ g < n := by
  show g < (if m ≤ n then n else m) ↔ _
  split
  · rename_i hmn
    exact ⟨Or.inr, fun h => h.elim (fun hm => UInt64.lt_of_lt_of_le hm hmn) id⟩
  · rename_i hmn
    have hnm : n < m := UInt64.not_le.mp hmn
    exact ⟨Or.inl, fun h => h.elim id fun hn => UInt64.lt_trans hn hnm⟩

/-- The decision on the first file, and the decisions on the others. -/
theorem decideAll_cons (lookup : Path → Option CacheEntry) (fingerprint? : Path → Option String)
    (present : String → Bool) (rebuilt : Bool) (newest : UInt64) (f : SourceFile)
    (files : List SourceFile) :
    ∃ action, action = decision (fingerprint? f.path) (lookup f.path) (present f.library) rebuilt
        newest ∧
      decideAll lookup fingerprint? present rebuilt newest (f :: files) =
        ⟨f, action, fingerprint? f.path⟩ ::
          decideAll lookup fingerprint? present (rebuilt || action.isBuild)
            (newestAfter action (lookup f.path) newest) files :=
  ⟨_, rfl, rfl⟩

/-! ## The decisions on a plan -/

/-- The decisions are about the files in their order. -/
@[simp] theorem map_file_decideAll (rebuilt : Bool) (newest : UInt64) (files : List SourceFile) :
    (decideAll lookup fingerprint? present rebuilt newest files).map (·.file) = files := by
  induction files generalizing rebuilt newest with
  | nil => rfl
  | cons f files ih => simp [decideAll, ih]

/-- With each decision stands the fingerprint of the file. -/
theorem fingerprint_of_mem_decideAll {rebuilt : Bool} {newest : UInt64} {files : List SourceFile} :
    ∀ x ∈ decideAll lookup fingerprint? present rebuilt newest files,
      x.fingerprint = fingerprint? x.file.path := by
  induction files generalizing rebuilt newest with
  | nil => simp [decideAll]
  | cons f files ih =>
    intro x hx
    rcases List.mem_cons.mp hx with rfl | hx
    · rfl
    · exact ih x hx

/-- A file whose library is missing is told to be so only when the library is not there. -/
theorem present_of_mem_decideAll {rebuilt : Bool} {newest : UInt64} {files : List SourceFile} :
    ∀ x ∈ decideAll lookup fingerprint? present rebuilt newest files,
      x.action = .build .libraryMissing → present x.file.library = false := by
  induction files generalizing rebuilt newest with
  | nil => simp [decideAll]
  | cons f files ih =>
    intro x hx haction
    rcases List.mem_cons.mp hx with rfl | hx
    · by_contra hpresent
      rw [Bool.not_eq_false] at hpresent
      -- a library that is there is never the reason
      simp only [decision, hpresent, Bool.not_true, Bool.false_eq_true, if_false] at haction
      split at haction
      · simp at haction
      · simp at haction
      · split_ifs at haction <;> simp at haction
    · exact ih x hx haction

/-- Behind a file that is compiled all files are. -/
theorem isBuild_of_mem_decideAll_true {newest : UInt64} {files : List SourceFile} :
    ∀ x ∈ decideAll lookup fingerprint? present true newest files, x.action.isBuild = true := by
  induction files generalizing newest with
  | nil => simp [decideAll]
  | cons f files ih =>
    intro x hx
    rcases List.mem_cons.mp hx with rfl | hx
    · by_contra hskip
      have hdecision := isBuild_eq_false_iff.mp (by simpa using hskip)
      simpa using (decision_eq_skip_iff.mp hdecision).1
    · exact ih x hx

/-- The decisions on files at the front do not depend on those behind them. -/
theorem decideAll_append (lookup : Path → Option CacheEntry) (fingerprint? : Path → Option String)
    (present : String → Bool) (rebuilt : Bool) (newest : UInt64) (files more : List SourceFile) :
    ∃ rebuilt' newest', decideAll lookup fingerprint? present rebuilt newest (files ++ more) =
      decideAll lookup fingerprint? present rebuilt newest files ++
        decideAll lookup fingerprint? present rebuilt' newest' more := by
  induction files generalizing rebuilt newest with
  | nil => exact ⟨rebuilt, newest, rfl⟩
  | cons f files ih =>
    obtain ⟨rebuilt', newest', h⟩ := ih _ _
    exact ⟨rebuilt', newest', congrArg (_ :: ·) h⟩

/-- The files at the front are skipped, as long as they are clean. -/
theorem decideAll_append_of_cleanRun {newest last : UInt64} {clean : List SourceFile}
    (h : CleanRun lookup fingerprint? present newest clean last) (rest : List SourceFile) :
    decideAll lookup fingerprint? present false newest (clean ++ rest) =
      clean.map (fun f => ⟨f, .skip, fingerprint? f.path⟩) ++
        decideAll lookup fingerprint? present false last rest := by
  induction h with
  | nil => rfl
  | @cons newest last f e files clean _ ih =>
    obtain ⟨action, haction, heq⟩ :=
      decideAll_cons lookup fingerprint? present false newest f (files ++ rest)
    obtain rfl : action = .skip := haction.trans (decision_eq_skip_iff.mpr ⟨rfl, e, clean⟩)
    -- the greatest generation so far is now that of this file
    have hnewest : newestAfter .skip (lookup f.path) newest = e.generation := by
      rw [clean.entry]
      exact if_pos clean.not_older
    rw [List.cons_append, heq, hnewest, List.map_cons, List.cons_append, ← ih]
    rfl

/-- Every row of files has clean files at the front, up to one that is not clean. -/
theorem exists_cleanRun (lookup : Path → Option CacheEntry) (fingerprint? : Path → Option String)
    (present : String → Bool) (newest : UInt64) (files : List SourceFile) :
    ∃ clean rest last, files = clean ++ rest ∧
      CleanRun lookup fingerprint? present newest clean last ∧
      ∀ f ∈ rest.head?, ∀ e, ¬ Clean lookup fingerprint? present last f e := by
  induction files generalizing newest with
  | nil => exact ⟨[], [], newest, rfl, .nil newest, by simp⟩
  | cons f files ih =>
    by_cases hclean : ∃ e, Clean lookup fingerprint? present newest f e
    · obtain ⟨e, hclean⟩ := hclean
      obtain ⟨clean, rest, last, rfl, hrun, hrest⟩ := ih e.generation
      exact ⟨f :: clean, rest, last, rfl, .cons hclean hrun, hrest⟩
    · refine ⟨[], f :: files, newest, rfl, .nil newest, ?_⟩
      rintro g hg e he
      obtain rfl : f = g := by simpa using hg
      exact hclean ⟨e, he⟩

/-- A row of files whose first one is not clean is compiled as a whole. -/
theorem isBuild_of_mem_decideAll_of_not_clean {newest : UInt64} {files : List SourceFile}
    (h : ∀ f ∈ files.head?, ∀ e, ¬ Clean lookup fingerprint? present newest f e) :
    ∀ x ∈ decideAll lookup fingerprint? present false newest files, x.action.isBuild = true := by
  cases files with
  | nil => simp [decideAll]
  | cons f files =>
    obtain ⟨action, haction, heq⟩ :=
      decideAll_cons lookup fingerprint? present false newest f files
    have hbuild : action.isBuild = true := by
      by_contra hskip
      have hdecision := isBuild_eq_false_iff.mp (by simpa using hskip)
      obtain ⟨-, e, he⟩ := decision_eq_skip_iff.mp (haction.symm.trans hdecision)
      exact h f rfl e he
    rw [heq, hbuild]
    intro x hx
    rcases List.mem_cons.mp hx with rfl | hx
    · exact hbuild
    · exact isBuild_of_mem_decideAll_true x hx

/-! ## Rows of clean files -/

/-- Rows of clean files one behind the other are one. -/
theorem CleanRun.append {newest middle last : UInt64} {files more : List SourceFile}
    (h : CleanRun lookup fingerprint? present newest files middle)
    (h' : CleanRun lookup fingerprint? present middle more last) :
    CleanRun lookup fingerprint? present newest (files ++ more) last := by
  induction h with
  | nil => exact h'
  | cons clean _ ih => exact .cons clean (ih h')

/-- What is known of a file in one way and in another is the same. -/
def AgreeOn (lookup lookup' : Path → Option CacheEntry) (fingerprint? fingerprint?' :
    Path → Option String) (present present' : String → Bool) (f : SourceFile) : Prop :=
  lookup' f.path = lookup f.path ∧ fingerprint?' f.path = fingerprint? f.path ∧
    present' f.library = present f.library

variable {lookup' : Path → Option CacheEntry} {fingerprint?' : Path → Option String}
  {present' : String → Bool}

theorem AgreeOn.symm {f : SourceFile}
    (h : AgreeOn lookup lookup' fingerprint? fingerprint?' present present' f) :
    AgreeOn lookup' lookup fingerprint?' fingerprint? present' present f :=
  ⟨h.1.symm, h.2.1.symm, h.2.2.symm⟩

theorem Clean.congr {newest : UInt64} {f : SourceFile} {e : CacheEntry}
    (h : Clean lookup fingerprint? present newest f e)
    (hagree : AgreeOn lookup lookup' fingerprint? fingerprint?' present present' f) :
    Clean lookup' fingerprint?' present' newest f e :=
  ⟨hagree.1.trans h.entry, hagree.2.1.trans h.current, hagree.2.2.trans h.library, h.not_older⟩

theorem CleanRun.congr {newest last : UInt64} {files : List SourceFile}
    (h : CleanRun lookup fingerprint? present newest files last)
    (hagree : ∀ f ∈ files, AgreeOn lookup lookup' fingerprint? fingerprint?' present present' f) :
    CleanRun lookup' fingerprint?' present' newest files last := by
  induction h with
  | nil newest => exact .nil newest
  | cons clean _ ih =>
    exact .cons (clean.congr (hagree _ (List.mem_cons_self ..)))
      (ih fun g hg => hagree g (List.mem_cons_of_mem _ hg))

/-- The generation behind a row of clean files is that of one of their entries, or the one before
the row. -/
theorem CleanRun.last_le {newest last : UInt64} {files : List SourceFile}
    (h : CleanRun lookup fingerprint? present newest files last) {bound : Nat}
    (hnewest : newest.toNat ≤ bound)
    (hentries : ∀ path e, lookup path = some e → e.generation.toNat ≤ bound) :
    last.toNat ≤ bound := by
  induction h with
  | nil => exact hnewest
  | cons clean _ ih => exact ih (hentries _ _ clean.entry)

/-- Every file of a row of clean files is clean. -/
theorem CleanRun.clean_of_mem {newest last : UInt64} {files : List SourceFile}
    (h : CleanRun lookup fingerprint? present newest files last) :
    ∀ f ∈ files, ∃ e, Clean lookup fingerprint? present newest f e := by
  induction h with
  | nil => simp
  | @cons newest last f e files clean _ ih =>
    intro g hg
    rcases List.mem_cons.mp hg with rfl | hg
    · exact ⟨e, clean⟩
    · obtain ⟨e', clean'⟩ := ih g hg
      exact ⟨e', clean'.entry, clean'.current, clean'.library,
        UInt64.le_trans clean.not_older clean'.not_older⟩

/-- In a row of clean files no file is older than one before it. -/
theorem CleanRun.pairwise {newest last : UInt64} {files : List SourceFile}
    (h : CleanRun lookup fingerprint? present newest files last) :
    files.Pairwise fun g f => ∀ e, lookup g.path = some e →
      ∃ e', Clean lookup fingerprint? present e.generation f e' := by
  induction h with
  | nil => exact List.Pairwise.nil
  | @cons newest last f e files clean rest ih =>
    refine List.pairwise_cons.mpr ⟨fun g hg e' he' => ?_, ih⟩
    obtain rfl := Option.some.inj (clean.entry.symm.trans he')
    exact rest.clean_of_mem g hg

/-- Of two files of a row of clean files the one in front is not the newer one. -/
theorem CleanRun.generation_le {newest last : UInt64} {files : List SourceFile}
    (h : CleanRun lookup fingerprint? present newest files last) {m n : Nat} (hmn : m < n)
    {g f : SourceFile} (hg : files[m]? = some g) (hf : files[n]? = some f) {e e' : CacheEntry}
    (he : lookup g.path = some e) (he' : lookup f.path = some e') :
    e.generation ≤ e'.generation := by
  obtain ⟨hm, hgm⟩ := List.getElem?_eq_some_iff.mp hg
  obtain ⟨hn, hfn⟩ := List.getElem?_eq_some_iff.mp hf
  have hpair := List.pairwise_iff_getElem.mp h.pairwise m n hm hn hmn
  rw [hgm, hfn] at hpair
  obtain ⟨e'', hclean⟩ := hpair e he
  obtain rfl := Option.some.inj (he'.symm.trans hclean.entry)
  exact hclean.not_older

/-! ## Filtered plans -/

/-- **A plan that is cut where its clean files end**: they are skipped, and the others are
compiled. -/
structure CutsAt (c : CacheContent) (name : String) (fingerprint? : Path → Option String)
    (present : String → Bool) (files clean rest : List SourceFile) (last : UInt64) : Prop where
  /-- The clean files stand in front. -/
  append : files = clean ++ rest
  /-- They are clean. -/
  clean : CleanRun (c.find? name) fingerprint? present 0 clean last
  /-- The next file is not. -/
  not_clean : ∀ f ∈ rest.head?, ∀ e, ¬ Clean (c.find? name) fingerprint? present last f e

variable {c : CacheContent} {name : String} {plan : BuildPlan} {clean rest : List SourceFile}
  {last : UInt64}

theorem exists_cutsAt (c : CacheContent) (name : String) (fingerprint? : Path → Option String)
    (present : String → Bool) (files : List SourceFile) :
    ∃ clean rest last, CutsAt c name fingerprint? present files clean rest last := by
  obtain ⟨clean, rest, last, happend, hclean, hrest⟩ :=
    exists_cleanRun (c.find? name) fingerprint? present 0 files
  exact ⟨clean, rest, last, happend, hclean, hrest⟩

/-- Where a plan is cut depends only on what is known of its files. -/
theorem CutsAt.congr {c' : CacheContent} {name' : String} {files : List SourceFile}
    (h : CutsAt c name fingerprint? present files clean rest last)
    (hagree : ∀ f ∈ files, AgreeOn (c.find? name) (c'.find? name') fingerprint? fingerprint?'
      present present' f) :
    CutsAt c' name' fingerprint?' present' files clean rest last where
  append := h.append
  clean := h.clean.congr fun f hf => hagree f (h.append ▸ List.mem_append_left _ hf)
  not_clean f hf e he := by
    have hmem : f ∈ files := h.append ▸ List.mem_append_right _ (List.mem_of_mem_head? hf)
    exact h.not_clean f hf e (he.congr (hagree f hmem).symm)

/-- The decisions on a plan, cut where its clean files end. -/
theorem CutsAt.entries_filter (h : CutsAt c name fingerprint? present plan.files clean rest last) :
    (c.filter plan name fingerprint? present).entries =
      clean.map (fun f => ⟨f, .skip, fingerprint? f.path⟩) ++
        decideAll (c.find? name) fingerprint? present false last rest := by
  rw [filter, h.append]
  exact decideAll_append_of_cleanRun h.clean rest

theorem CutsAt.isBuild (h : CutsAt c name fingerprint? present plan.files clean rest last) :
    ∀ x ∈ decideAll (c.find? name) fingerprint? present false last rest,
      x.action.isBuild = true :=
  isBuild_of_mem_decideAll_of_not_clean h.not_clean

/-- **The files that are skipped are the clean ones.** -/
theorem CutsAt.skipped_filter (h : CutsAt c name fingerprint? present plan.files clean rest last) :
    (c.filter plan name fingerprint? present).skipped =
      clean.map fun f => ⟨f, .skip, fingerprint? f.path⟩ := by
  have hrest : (decideAll (c.find? name) fingerprint? present false last rest).filter
      (fun x => !x.action.isBuild) = [] :=
    List.filter_eq_nil_iff.mpr fun x hx => by simp [h.isBuild x hx]
  rw [FilteredPlan.skipped, h.entries_filter, List.filter_append, hrest, List.append_nil,
    List.filter_eq_self]
  simp [BuildAction.isBuild]

/-- **The files that are compiled are all behind the clean ones.** -/
theorem CutsAt.toBuild_filter (h : CutsAt c name fingerprint? present plan.files clean rest last) :
    (c.filter plan name fingerprint? present).toBuild =
      decideAll (c.find? name) fingerprint? present false last rest := by
  have hclean : (clean.map fun f => (⟨f, .skip, fingerprint? f.path⟩ : PlannedFile)).filter
      (·.action.isBuild) = [] := by
    rw [List.filter_eq_nil_iff]
    simp [BuildAction.isBuild]
  rw [FilteredPlan.toBuild, h.entries_filter, List.filter_append, hclean, List.nil_append]
  exact List.filter_eq_self.mpr h.isBuild

/-- **The files that are skipped stand in front of those that are compiled.** -/
theorem entries_filter_eq (c : CacheContent) (plan : BuildPlan) (name : String)
    (fingerprint? : Path → Option String) (present : String → Bool) :
    (c.filter plan name fingerprint? present).entries =
      (c.filter plan name fingerprint? present).skipped ++
        (c.filter plan name fingerprint? present).toBuild := by
  obtain ⟨clean, rest, last, hcut⟩ := exists_cutsAt c name fingerprint? present plan.files
  rw [hcut.skipped_filter, hcut.toBuild_filter, hcut.entries_filter]

/-- A file that is to be compiled is one of the plan, with its fingerprint. -/
theorem mem_toBuild_filter {x : PlannedFile}
    (hx : x ∈ (c.filter plan name fingerprint? present).toBuild) :
    x.file ∈ plan.files ∧ x.fingerprint = fingerprint? x.file.path := by
  have hmem := (List.mem_filter.mp hx).1
  refine ⟨?_, fingerprint_of_mem_decideAll x hmem⟩
  rw [← map_file_decideAll false 0 plan.files]
  exact List.mem_map_of_mem hmem

/-- A decision stands where its file stands in the plan. -/
theorem getElem?_files_of_filter {n : Nat} {x : PlannedFile}
    (hx : (c.filter plan name fingerprint? present).entries[n]? = some x) :
    plan.files[n]? = some x.file := by
  have hmap : (c.filter plan name fingerprint? present).entries.map (·.file) = plan.files :=
    map_file_decideAll false 0 plan.files
  rw [← hmap, List.getElem?_map, hx]
  rfl

/-- **The decisions on a plan are those on any plan that begins with its files**, as far as these
go. -/
theorem exists_entries_filter_eq {plan' : BuildPlan} {files : List SourceFile}
    (hfiles : plan'.files = plan.files ++ files) :
    ∃ more : List PlannedFile, more.map (·.file) = files ∧
      (c.filter plan' name fingerprint? present).entries =
        (c.filter plan name fingerprint? present).entries ++ more := by
  obtain ⟨rebuilt, newest, h⟩ :=
    decideAll_append (c.find? name) fingerprint? present false 0 plan.files files
  refine ⟨decideAll (c.find? name) fingerprint? present rebuilt newest files,
    map_file_decideAll rebuilt newest files, ?_⟩
  rw [filter, hfiles, h]
  rfl

/-- The decision on a clean file is to skip it. -/
theorem CutsAt.getElem?_filter (h : CutsAt c name fingerprint? present plan.files clean rest last)
    {n : Nat} (hn : n < clean.length) {x : PlannedFile}
    (hx : (c.filter plan name fingerprint? present).entries[n]? = some x) :
    ∃ f, clean[n]? = some f ∧ x = ⟨f, .skip, fingerprint? f.path⟩ := by
  rw [h.entries_filter, List.getElem?_append_left (by simpa using hn), List.getElem?_map] at hx
  obtain ⟨f, hf, rfl⟩ := Option.map_eq_some_iff.mp hx
  exact ⟨f, hf, rfl⟩

/-- A file that is skipped stands among the clean ones. -/
theorem CutsAt.lt_length_of_skip
    (h : CutsAt c name fingerprint? present plan.files clean rest last) {n : Nat} {x : PlannedFile}
    (hx : (c.filter plan name fingerprint? present).entries[n]? = some x)
    (hskip : x.action = .skip) : n < clean.length := by
  by_contra hn
  rw [h.entries_filter, List.getElem?_append_right (by simpa using hn)] at hx
  have hbuild := h.isBuild x (List.mem_of_getElem? hx)
  simp [hskip, BuildAction.isBuild] at hbuild

/-- **A file that is skipped is clean, and so are all files before it**, and none of them is
newer. -/
theorem filter_skip {n : Nat} {x : PlannedFile}
    (hx : (c.filter plan name fingerprint? present).entries[n]? = some x)
    (hskip : x.action = .skip) :
    ∃ e, Clean (c.find? name) fingerprint? present 0 x.file e ∧
      x.fingerprint = fingerprint? x.file.path ∧
      ∀ m y, m < n → (c.filter plan name fingerprint? present).entries[m]? = some y →
        y.action = .skip ∧ ∃ e', Clean (c.find? name) fingerprint? present 0 y.file e' ∧
          e'.generation ≤ e.generation := by
  obtain ⟨clean, rest, last, hcut⟩ := exists_cutsAt c name fingerprint? present plan.files
  have hn := hcut.lt_length_of_skip hx hskip
  obtain ⟨f, hf, rfl⟩ := hcut.getElem?_filter hn hx
  obtain ⟨e, he⟩ := hcut.clean.clean_of_mem f (List.mem_of_getElem? hf)
  refine ⟨e, he, rfl, fun m y hm hy => ?_⟩
  obtain ⟨g, hg, rfl⟩ := hcut.getElem?_filter (hm.trans hn) hy
  obtain ⟨e', he'⟩ := hcut.clean.clean_of_mem g (List.mem_of_getElem? hg)
  exact ⟨rfl, e', he', hcut.clean.generation_le hm hg hf he'.entry he.entry⟩

end CacheContent

end RtlFlow
