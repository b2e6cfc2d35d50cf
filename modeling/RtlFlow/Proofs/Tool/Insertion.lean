import RtlFlow.Proofs.Tool.Substitution
import RtlFlow.Tool.CommandBackend

/-! # How values come into templates

The values of a request are put into the templates of a configured backend one key after the other,
and so is a generic or a precompiled library into its format. A text that is put in is searched for
the keys that come later. Where no key is found that the template does not have, the result is that
of replacing all keys at once. -/

namespace RtlFlow

namespace Template

open RtlFlow.Text
open Alphabet (keys keyword)

/-! ## The keys of commands and formats -/

/-- **A key of a template of a command.** -/
inductive CommandKey where
  /-- A key that stands for one text. -/
  | scalar (k : ScalarKey)
  /-- A key that stands for a list of texts. -/
  | list (k : ListKey)
  deriving DecidableEq, Repr

instance : Alphabet CommandKey where
  keys := scalarKeys.map .scalar ++ listKeys.map .list
  keyword
    | .scalar k => k.keyword
    | .list k => k.keyword
  mem_keys := by
    rintro (k | k) <;> cases k <;> decide
  nodup_keywords := by decide
  open_notMem := by decide +kernel
  close_notMem := by decide +kernel

theorem placeholder_scalar (k : ScalarKey) :
    k.placeholder = placeholder (keyword (CommandKey.scalar k)) := rfl

theorem placeholder_list (k : ListKey) :
    k.placeholder = placeholder (keyword (CommandKey.list k)) := rfl

/-- **A key of the format of a generic.** -/
inductive GenericKey where
  /-- The name of the generic. -/
  | name
  /-- Its value. -/
  | value
  deriving DecidableEq, Repr

instance : Alphabet GenericKey where
  keys := [.name, .value]
  keyword
    | .name => "name"
    | .value => "value"
  mem_keys := by
    rintro (_ | _) <;> decide
  nodup_keywords := by decide
  open_notMem := by decide +kernel
  close_notMem := by decide +kernel

/-- **A key of the format of a precompiled library.** -/
inductive IncludeKey where
  /-- The name of the library. -/
  | name
  /-- Where it stands. -/
  | path
  deriving DecidableEq, Repr

instance : Alphabet IncludeKey where
  keys := [.name, .path]
  keyword
    | .name => "name"
    | .path => "path"
  mem_keys := by
    rintro (_ | _) <;> decide
  nodup_keywords := by decide
  open_notMem := by decide +kernel
  close_notMem := by decide +kernel

/-- The text of a key in a request; a list stands with blanks between its texts. -/
def Values.text (values : Values) : CommandKey → Option String
  | .scalar k => values.scalar k
  | .list k => some (" ".intercalate (values.items k))

/-- The texts of a generic. -/
def genericText (name : String) (v : GenericValue) : GenericKey → Option String
  | .name => some name
  | .value => some v.render

/-- The texts of a precompiled library. -/
def includeText (i : IncludePath) : IncludeKey → Option String
  | .name => some i.name
  | .path => some i.path.text

/-! ## Templates with their keys replaced at once -/

section AtOnce

variable (backend : String) (values : Values) (s : String)

/-- The first key for one text that a template has and a request has no text for. -/
def missing? (ks : List ScalarKey) : Option ScalarKey :=
  ks.find? fun k => decide (.key (.scalar k) ∈ (pieces s : List (Piece CommandKey))) &&
    (values.scalar k).isNone

/-- The keys for one text replaced at once; those for lists stay. -/
def substituteScalars : Except ToolError String :=
  match missing? values s scalarKeys with
  | some k => .error (.missingValue backend k.placeholder)
  | none => .ok (substitute (only values.text (scalarKeys.map .scalar)) s)

/-- What a template that is no list stands for, when its keys are replaced at once. -/
def substituteText : Except ToolError (List String) :=
  if .key (.scalar .duration) ∈ (pieces s : List (Piece CommandKey)) ∧
      values.scalar .duration = none then .ok []
  else
    match missing? values s scalarKeys with
    | some k => .error (.missingValue backend k.placeholder)
    | none => .ok [substitute values.text s]

/-- The arguments that a template stands for, when its keys are replaced at once. -/
def substituteArgument : Except ToolError (List String) :=
  match wholeList? s with
  | some k => .ok (values.items k)
  | none => substituteText backend values s

/-- The lines that a template stands for, when its keys are replaced at once. -/
def substituteLine : Except ToolError (List String) :=
  match wholeList? s with
  | some k => .ok (if (values.items k).isEmpty then [] else [" ".intercalate (values.items k)])
  | none => substituteText backend values s

end AtOnce

variable {backend : String} {values : Values} {s : String}

/-- **The keys for one text are replaced in turn**, up to the first one without a text. -/
theorem replaceScalars_fill (done : List ScalarKey) {ks : List ScalarKey}
    (hkeys : scalarKeys = done ++ ks) (h : ∀ k ∈ ks, Undisturbed values.text s (.scalar k)) :
    replaceScalars backend values ks
        (String.ofList (fill (only values.text (done.map .scalar)) (pieces s))) =
      match missing? values s ks with
      | some k => .error (.missingValue backend k.placeholder)
      | none => .ok (substitute (only values.text (scalarKeys.map .scalar)) s) := by
  induction ks generalizing done with
  | nil =>
    rw [List.append_nil] at hkeys
    rw [replaceScalars, ← hkeys]
    rfl
  | cons k ks ih =>
    obtain ⟨hturn, h⟩ := List.forall_mem_cons.mp h
    have hsplit : (keys : List CommandKey) =
        done.map .scalar ++ .scalar k :: (ks.map .scalar ++ listKeys.map .list) := by
      show scalarKeys.map CommandKey.scalar ++ _ = _
      rw [hkeys, List.map_append, List.append_assoc]
      rfl
    obtain ⟨hbefore, hnone⟩ := turn values.text hsplit
    rw [Undisturbed, hbefore] at hturn
    have hcontains := contains_fill_iff hturn
    have hreplace := replaceAll_fill hnone hturn
    have hnext := ih (done ++ [k]) (by rw [hkeys, List.append_assoc]; rfl) h
    rw [List.map_append, List.map_singleton, only_append_singleton] at hnext
    rw [← placeholder_scalar] at hcontains
    simp only [← placeholder_scalar] at hreplace
    change replaceScalars _ _ _ (String.ofList (fill (Function.update _ _ (values.scalar k)) _)) =
      _ at hnext
    rw [replaceScalars, missing?, List.find?_cons]
    by_cases hmem : .key (.scalar k) ∈ (pieces s : List (Piece CommandKey))
    · rw [if_pos (hcontains.mpr hmem)]
      cases hv : values.scalar k with
      | none =>
        simp [hmem]
      | some v =>
        rw [hv] at hnext
        simp only [hreplace, hnext, hmem, decide_true, Option.isNone_some, Bool.and_false]
        rfl
    · -- the template does not have the key
      rw [fill_update_of_notMem hmem] at hnext
      rw [if_neg (mt hcontains.mp hmem), hnext]
      simp only [hmem, decide_false, Bool.false_and]
      rfl

/-- **The keys for one text, replaced at once.** -/
theorem expandScalars_eq (h : ∀ k, Undisturbed values.text s (.scalar k)) :
    expandScalars backend values s = substituteScalars backend values s := by
  have hkeys : scalarKeys = [] ++ scalarKeys := rfl
  rw [expandScalars, substituteScalars, ← replaceScalars_fill [] hkeys fun k _ => h k,
    List.map_nil, only_nil, fill_pieces, String.ofList_toList]

/-- A template asks for a time to be simulated when it has the key. -/
theorem lacksDuration_iff : lacksDuration values s = true ↔
    .key (.scalar .duration) ∈ (pieces s : List (Piece CommandKey)) ∧
      values.scalar .duration = none := by
  rw [lacksDuration, Bool.and_eq_true, placeholder_scalar, contains_placeholder_iff,
    Option.isNone_iff_eq_none]

/-- **All keys, replaced at once.** -/
theorem expandText_eq (h : ∀ k, Undisturbed values.text s k) :
    expandText backend values s = substituteText backend values s := by
  have hkeys : (keys : List CommandKey) = scalarKeys.map .scalar ++ listKeys.map .list := rfl
  have hvalue : ∀ k ∈ listKeys.map CommandKey.list, (values.text k).isSome = true := by
    intro k hk
    obtain ⟨l, -, rfl⟩ := List.mem_map.mp hk
    rfl
  have hlists := foldl_replaceAll hkeys hvalue fun k _ => h k
  rw [List.foldl_map] at hlists
  simp only [← placeholder_list] at hlists
  change replaceLists values _ = _ at hlists
  rw [expandText, expandScalars_eq fun k => h (.scalar k), substituteText, substituteScalars]
  simp only [lacksDuration_iff]
  split
  · rfl
  · cases hmissing : missing? values s scalarKeys with
    | some k => rfl
    | none =>
      show Except.ok [replaceLists values (substitute (only values.text _) s)] = _
      rw [substitute, hlists]

theorem expandArgument_eq (h : ∀ k, Undisturbed values.text s k) :
    expandArgument backend values s = substituteArgument backend values s := by
  unfold expandArgument substituteArgument
  cases wholeList? s with
  | some k => rfl
  | none => exact expandText_eq h

theorem expandLine_eq (h : ∀ k, Undisturbed values.text s k) :
    expandLine backend values s = substituteLine backend values s := by
  unfold expandLine substituteLine
  cases wholeList? s with
  | some k => rfl
  | none => exact expandText_eq h

end Template

namespace CommandBackend

open Template (Undisturbed genericText includeText substitute)

/-! ## Formats -/

/-- The format of generics. -/
def genericFormat (s : BackendSettings) : String := s.genericFormat.getD defaultGenericFormat

/-- The format of precompiled libraries. -/
def includeFormat (s : BackendSettings) : String := s.includeFormat.getD defaultIncludeFormat

/-- **The arguments for generics, each put into the format at once.** -/
theorem genericArgs_eq {s : BackendSettings} {g : Generics}
    (h : ∀ x ∈ g.entries, ∀ k, Undisturbed (genericText x.1 x.2) (genericFormat s) k) :
    genericArgs s g =
      g.entries.map fun x => substitute (genericText x.1 x.2) (genericFormat s) := by
  refine List.map_congr_left fun x hx => ?_
  have hvalue : ∀ k, (genericText x.1 x.2 k).isSome = true := by
    rintro (_ | _) <;> rfl
  exact Template.foldl_keys_eq hvalue (h x hx)

/-- **The arguments for precompiled libraries, each put into the format at once.** -/
theorem includeArgs_eq {s : BackendSettings} {includes : List IncludePath}
    (h : ∀ i ∈ includes, ∀ k, Undisturbed (includeText i) (includeFormat s) k) :
    includeArgs s includes = includes.map fun i => substitute (includeText i) (includeFormat s) := by
  refine List.map_congr_left fun i hi => ?_
  have hvalue : ∀ k, (includeText i k).isSome = true := by
    rintro (_ | _) <;> rfl
  exact Template.foldl_keys_eq hvalue (h i hi)

end CommandBackend

end RtlFlow
