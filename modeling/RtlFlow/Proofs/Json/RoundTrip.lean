import RtlFlow.Json.Reading
import RtlFlow.Json.Writing
import RtlFlow.Proofs.Text.Utf8
import Mathlib.Data.List.DropRight
import Mathlib.Tactic.IntervalCases

/-! # What is written as JSON is read again

Every value without garbled parts, whose numbers are natural ones, is read again from what is
written of it with indentation (`Json.readBytes_pretty`). Each token has a lemma of its own: behind
what is written of it the reader stands at the rest of the text. Behind a number the rest must not
go on with it, and behind all values that stand inside of others it begins with a comma or a new
line. -/

namespace RtlFlow.Json

open RtlFlow.Number

/-! ## Spaces -/

theorem skipSpaces_idem (cs : List Char) : skipSpaces (skipSpaces cs) = skipSpaces cs :=
  List.dropWhile_idempotent _ cs

/-- A text that does not begin with a space has none to skip. -/
theorem skipSpaces_cons {c : Char} (h : isSpace c = false) (cs : List Char) :
    skipSpaces (c :: cs) = c :: cs := by
  rw [skipSpaces, List.dropWhile_cons_of_neg (by simp [h])]

/-- A blank is a space. -/
theorem skipSpaces_space (cs : List Char) : skipSpaces (' ' :: cs) = skipSpaces cs :=
  List.dropWhile_cons_of_pos rfl

/-- The start of a line. -/
theorem toList_newLine (level : Nat) :
    (newLine level).toList = '\n' :: List.replicate (2 * level) ' ' := by
  simp [newLine]

/-- The start of a line is all spaces. -/
theorem skipSpaces_newLine (level : Nat) (cs : List Char) :
    skipSpaces ((newLine level).toList ++ cs) = skipSpaces cs := by
  unfold skipSpaces
  refine List.dropWhile_append_of_pos fun c hc => ?_
  rw [toList_newLine] at hc
  rcases List.mem_cons.mp hc with rfl | hc
  · rfl
  · rw [List.eq_of_mem_replicate hc]
    rfl

/-- A digit is no space. -/
theorem isSpace_of_isDigit {c : Char} (h : c.isDigit = true) : isSpace c = false := by
  simp only [isSpace, Bool.or_eq_false_iff, decide_eq_false_iff_not]
  refine ⟨⟨⟨?_, ?_⟩, ?_⟩, ?_⟩ <;> rintro rfl <;> simp at h

/-! ## Strings -/

/-- What is written of a text. -/
theorem toList_quote (s : String) :
    (quote s).toList = '"' :: s.toList.flatMap escapeChar ++ ['"'] := by
  have hpush (cs : List Char) (out : String) :
      (cs.foldl String.push out).toList = out.toList ++ cs := by
    induction cs generalizing out with
    | nil => simp
    | cons c cs ih => rw [List.foldl_cons, ih]; simp
  have hfold (cs : List Char) (out : String) :
      (cs.foldl (fun out c => (escapeChar c).foldl String.push out) out).toList =
        out.toList ++ cs.flatMap escapeChar := by
    induction cs generalizing out with
    | nil => simp
    | cons c cs ih => rw [List.foldl_cons, ih, hpush, List.flatMap_cons, List.append_assoc]
  unfold quote
  rw [String.foldl_eq_foldl_toList, String.toList_push, hfold]
  simp

/-- A hexadecimal digit is read as its value. -/
theorem hexDigit?_hexDigit {n : Nat} (h : n < 16) : hexDigit? (hexDigit n) = some n := by
  interval_cases n <;> rfl

/-- The numeric escape of a control character is read as that character. -/
theorem numericEscape_control {c : Char} (h : c.toNat < 32) (cs : List Char) :
    numericEscape ('0' :: '0' :: hexDigit (c.toNat / 16) :: hexDigit (c.toNat % 16) :: cs) =
      .ok (some c, cs) := by
  have hvalue : ((0 * 16 + 0) * 16 + c.toNat / 16) * 16 + c.toNat % 16 = c.toNat := by omega
  have hhex : hex4? ('0' :: '0' :: hexDigit (c.toNat / 16) :: hexDigit (c.toNat % 16) :: cs) =
      some (c.toNat, cs) := by
    unfold hex4?
    dsimp only
    rw [hexDigit?_hexDigit (by omega), hexDigit?_hexDigit (by omega)]
    exact congrArg (fun n => some (n, cs)) hvalue
  unfold numericEscape
  rw [hhex]
  dsimp only
  rw [if_neg (by omega), if_neg (by omega), Char.ofNat_toNat]

/-- **A character of a string is read from what is written of it.** -/
theorem readText_escapeChar (done : List Char) (fuel : Nat) (c : Char) (cs : List Char) :
    readText (some done) (fuel + 1) (escapeChar c ++ cs) = readText (some (c :: done)) fuel cs := by
  unfold escapeChar
  split_ifs with h₁ h₂ h₃ h₄ h₅ h₆ h₇ h₈
  · subst h₁; rfl
  · subst h₂; rfl
  · subst h₃; rfl
  · subst h₄; rfl
  · subst h₅; rfl
  · subst h₆; rfl
  · subst h₇; rfl
  · simp [readText, numericEscape_control h₈, bind, Except.bind]
  · simp [readText, h₁, h₂, h₈]

/-- **A string is read from what is written of it.** -/
theorem readText_escaped (s done : List Char) {fuel : Nat} (h : s.length < fuel)
    (rest : List Char) :
    readText (some done) fuel (s.flatMap escapeChar ++ '"' :: rest) =
      .ok (some (String.ofList (done.reverse ++ s)), rest) := by
  induction s generalizing done fuel with
  | nil =>
    obtain ⟨fuel, rfl⟩ := Nat.exists_eq_succ_of_ne_zero (by omega : fuel ≠ 0)
    simp [readText]
  | cons c s ih =>
    obtain ⟨fuel, rfl⟩ := Nat.exists_eq_succ_of_ne_zero (by omega : fuel ≠ 0)
    rw [List.flatMap_cons, List.append_assoc, readText_escapeChar, ih _ (by simpa using h)]
    simp

/-- What is written of a text is at least as long. -/
theorem length_le_flatMap_escapeChar (s : List Char) :
    s.length ≤ (s.flatMap escapeChar).length := by
  induction s with
  | nil => simp
  | cons c s ih =>
    have hone : 1 ≤ (escapeChar c).length := by
      unfold escapeChar
      split_ifs <;> simp
    simp only [List.flatMap_cons, List.length_append, List.length_cons]
    omega

/-- **A text is read from behind its opening quote.** -/
theorem readText_quote (s : String) (rest : List Char) :
    readText (some []) ((s.toList.flatMap escapeChar ++ '"' :: rest).length + 1)
      (s.toList.flatMap escapeChar ++ '"' :: rest) = .ok (some s, rest) := by
  have hlength := length_le_flatMap_escapeChar s.toList
  rw [readText_escaped _ _ (by simp only [List.length_append, List.length_cons]; omega)]
  simp

/-! ## Numbers -/

/-- **What may stand behind a value** inside of another one. -/
def Ends (rest : List Char) : Prop := ∀ c ∈ rest.head?, c = ',' ∨ c = '\n'

/-- The digits of a number are read as that number. -/
theorem digitsValue_toDigits (n : Nat) : digitsValue (Nat.toDigits 10 n) = n :=
  Nat.ofDigitChars_ten_toDigits

/-- No number but zero is written with a zero at its start. -/
theorem eq_zero_of_head?_toDigits {n : Nat} (h : (Nat.toDigits 10 n).head? = some '0') : n = 0 := by
  induction n using Nat.strong_induction_on with
  | _ n ih =>
    by_cases hn : n < 10
    · rw [Nat.toDigits_of_lt_base hn] at h
      interval_cases n <;> simp_all [Nat.digitChar]
    · rw [Nat.toDigits_of_base_le (by decide) (by omega),
        List.head?_append_of_ne_nil _ Nat.toDigits_ne_nil] at h
      have := ih (n / 10) (by omega) h
      omega

/-- **A natural number is read from its digits**, when what stands behind them does not go on with
it. -/
theorem readNumber_toDigits (n : Nat) {rest : List Char} (h : Ends rest) :
    readNumber false (Nat.toDigits 10 n ++ rest) = .ok (.ofNat n, rest) := by
  have hdigits : ∀ c ∈ Nat.toDigits 10 n, c.isDigit = true := fun c hc =>
    Nat.isDigit_of_mem_toDigits (by decide) (by decide) hc
  have hstop : rest.takeWhile Char.isDigit = [] ∧ rest.dropWhile Char.isDigit = rest := by
    cases rest with
    | nil => exact ⟨rfl, rfl⟩
    | cons c rest => rcases h c rfl with rfl | rfl <;> exact ⟨rfl, rfl⟩
  have hwhole : ((Nat.toDigits 10 n).isEmpty || ((Nat.toDigits 10 n).head? = some '0' &&
      (Nat.toDigits 10 n).length > 1)) = false := by
    have hnonempty : (Nat.toDigits 10 n).isEmpty = false := by simp [Nat.toDigits_ne_nil]
    by_cases hhead : (Nat.toDigits 10 n).head? = some '0'
    · obtain rfl := eq_zero_of_head?_toDigits hhead
      rfl
    · simp [hnonempty, hhead]
  unfold readNumber
  rw [List.takeWhile_append_of_pos hdigits, List.dropWhile_append_of_pos hdigits, hstop.1,
    hstop.2, List.append_nil]
  dsimp only
  rw [if_neg (by rw [hwhole]; simp)]
  cases rest with
  | nil => rfl
  | cons c rest => rcases h c rfl with rfl | rfl <;> rfl

/-! ## Values -/

/-- **A value that can be written and read again**: its numbers are natural ones, and no part of it
is garbled. -/
inductive Plain : Json → Prop
  /-- No value. -/
  | null : Plain .null
  /-- A truth value. -/
  | bool (b : Bool) : Plain (.bool b)
  /-- A natural number. -/
  | nat (n : Nat) : Plain (.nat n)
  /-- A string. -/
  | text (s : String) : Plain (.text s)
  /-- A list. -/
  | list {items : List Json} (h : ∀ j ∈ items, Plain j) : Plain (.list items)
  /-- An object. -/
  | object {members : List (String × Json)} (h : ∀ m ∈ members, Plain m.2) :
    Plain (.object members)

/-- Spaces in front of a value are passed over. -/
theorem readValue_skipSpaces (fuel : Nat) (cs : List Char) :
    readValue fuel (skipSpaces cs) = readValue fuel cs := by
  cases fuel with
  | zero => simp [readValue]
  | succ fuel => rw [readValue, readValue, skipSpaces_idem]

/-- Spaces in front of items are passed over. -/
theorem readItems_skipSpaces (fuel : Nat) (done : List Json) (cs : List Char) :
    readItems fuel done (skipSpaces cs) = readItems fuel done cs := by
  cases fuel with
  | zero => simp [readItems]
  | succ fuel => rw [readItems, readItems, readValue_skipSpaces]

/-- Spaces in front of members are passed over. -/
theorem readMembers_skipSpaces (fuel : Nat) (done : Option (List (String × Json)))
    (cs : List Char) : readMembers fuel done (skipSpaces cs) = readMembers fuel done cs := by
  cases fuel with
  | zero => simp [readMembers]
  | succ fuel => rw [readMembers, readMembers, skipSpaces_idem]

section Written

variable (level : Nat)

theorem toList_prettyAt_null : (prettyAt level .null).toList = ['n', 'u', 'l', 'l'] := by
  simp [prettyAt]

theorem toList_prettyAt_bool (b : Bool) : (prettyAt level (.bool b)).toList =
    if b then ['t', 'r', 'u', 'e'] else ['f', 'a', 'l', 's', 'e'] := by
  cases b <;> simp [prettyAt]

theorem toList_prettyAt_nat (n : Nat) :
    (prettyAt level (.nat n)).toList = Nat.toDigits 10 n := by
  simp [nat, prettyAt, Numeral.render, Numeral.ofNat]

theorem toList_prettyAt_text (s : String) :
    (prettyAt level (.text s)).toList = '"' :: s.toList.flatMap escapeChar ++ ['"'] := by
  rw [prettyAt, toList_quote]

theorem toList_prettyAt_list {items : List Json} (h : items ≠ []) :
    (prettyAt level (.list items)).toList =
      '[' :: (prettyItems (level + 1) items).toList ++ (newLine level).toList ++ [']'] := by
  cases items with
  | nil => exact absurd rfl h
  | cons j items => simp [prettyAt]

theorem toList_prettyAt_object {members : List (String × Json)} (h : members ≠ []) :
    (prettyAt level (.object members)).toList =
      '\x7b' :: (prettyMembers (level + 1) members).toList ++ (newLine level).toList ++
        ['\x7d'] := by
  cases members with
  | nil => exact absurd rfl h
  | cons m members => simp [prettyAt]

theorem toList_prettyItems_cons (j : Json) (items : List Json) :
    (prettyItems level (j :: items)).toList = (newLine level).toList ++ (prettyAt level j).toList ++
      (if items = [] then [] else ',' :: (prettyItems level items).toList) := by
  cases items <;> simp [prettyItems]

theorem toList_prettyMembers_cons (m : String × Json) (members : List (String × Json)) :
    (prettyMembers level (m :: members)).toList = (newLine level).toList ++
      '"' :: m.1.toList.flatMap escapeChar ++ '"' :: ':' :: ' ' :: (prettyAt level m.2).toList ++
      (if members = [] then [] else ',' :: (prettyMembers level members).toList) := by
  cases members <;> simp [prettyMembers, toList_quote]

end Written

/-- **What is written of a value begins with a character of its own**, which is neither a space nor
one that closes a list. -/
theorem exists_head?_prettyAt {j : Json} (h : j.Plain) (level : Nat) :
    ∃ c cs, (prettyAt level j).toList = c :: cs ∧ isSpace c = false ∧ c ≠ ']' := by
  cases h with
  | null => exact ⟨_, _, toList_prettyAt_null level, rfl, by decide⟩
  | bool b => cases b <;> exact ⟨_, _, toList_prettyAt_bool level _, rfl, by decide⟩
  | nat n =>
    rw [toList_prettyAt_nat]
    obtain ⟨c, cs, heq⟩ := List.exists_cons_of_ne_nil (Nat.toDigits_ne_nil (n := n) (b := 10))
    have hdigit : c.isDigit = true :=
      Nat.isDigit_of_mem_toDigits (by decide) (by decide) (heq ▸ List.mem_cons_self ..)
    refine ⟨c, cs, heq, isSpace_of_isDigit hdigit, ?_⟩
    rintro rfl
    simp at hdigit
  | text s => exact ⟨_, _, toList_prettyAt_text level s, rfl, by decide⟩
  | @list items h =>
    by_cases hnil : items = []
    · subst hnil
      exact ⟨'[', [']'], by simp [prettyAt], rfl, by decide⟩
    · exact ⟨_, _, toList_prettyAt_list level hnil, rfl, by decide⟩
  | @object members h =>
    by_cases hnil : members = []
    · subst hnil
      exact ⟨'\x7b', ['\x7d'], by simp [prettyAt], rfl, by decide⟩
    · exact ⟨_, _, toList_prettyAt_object level hnil, rfl, by decide⟩

/-- What is written of a value is not empty. -/
theorem exists_fuel {j : Json} (h : j.Plain) {level fuel : Nat}
    (hfuel : (prettyAt level j).toList.length ≤ fuel) : ∃ n, fuel = n + 1 := by
  obtain ⟨c, cs, heq, -⟩ := exists_head?_prettyAt h level
  rw [heq] at hfuel
  exact Nat.exists_eq_succ_of_ne_zero fun hzero => by simp [hzero] at hfuel

/-! ## Reading -/

/-- **A value is read from what is written of it**, at any level and with anything behind it that
may stand behind a value. -/
def Reads (j : Json) : Prop :=
  ∀ (level fuel : Nat) (rest : List Char), Ends rest →
    (prettyAt level j).toList.length ≤ fuel →
      readValue fuel ((prettyAt level j).toList ++ rest) = .ok (j, rest)

/-- A new line may stand behind a value. -/
theorem ends_newLine (level : Nat) (cs : List Char) : Ends ((newLine level).toList ++ cs) := by
  rw [toList_newLine]
  rintro _ ⟨⟩
  exact Or.inr rfl

/-- A comma may stand behind a value. -/
theorem ends_comma (cs : List Char) : Ends (',' :: cs) := by
  rintro _ ⟨⟩
  exact Or.inl rfl

/-- The start of a line in front of a value is passed over. -/
theorem readValue_newLine (level fuel : Nat) (cs : List Char) :
    readValue fuel ((newLine level).toList ++ cs) = readValue fuel cs := by
  rw [← readValue_skipSpaces, skipSpaces_newLine, readValue_skipSpaces]

/-- **The items of a list are read up to its end.** -/
theorem readItems_prettyItems {items : List Json} (h : ∀ j ∈ items, Reads j) (hne : items ≠ [])
    (level level' : Nat) {fuel : Nat} (hfuel : (prettyItems level items).toList.length ≤ fuel)
    (done : List Json) (rest : List Char) :
    readItems fuel done
        ((prettyItems level items).toList ++ ((newLine level').toList ++ ']' :: rest)) =
      .ok (done.reverse ++ items, rest) := by
  induction items generalizing fuel done with
  | nil => exact absurd rfl hne
  | cons j items ih =>
    have hj := h j (List.mem_cons_self ..)
    rw [toList_prettyItems_cons] at hfuel ⊢
    have hline : 1 ≤ (newLine level).toList.length := by simp [toList_newLine]
    simp only [List.length_append] at hfuel
    obtain ⟨fuel, rfl⟩ := Nat.exists_eq_succ_of_ne_zero (by omega : fuel ≠ 0)
    rw [readItems, List.append_assoc, List.append_assoc, readValue_newLine]
    by_cases hitems : items = []
    · subst hitems
      rw [if_pos rfl, List.nil_append, hj level fuel _ (ends_newLine _ _) (by omega)]
      simp only [bind, Except.bind, skipSpaces_newLine]
      rw [skipSpaces_cons rfl]
      simp [pure, Except.pure]
    · rw [if_neg hitems] at hfuel ⊢
      rw [List.cons_append, hj level fuel _ (ends_comma _) (by omega)]
      simp only [bind, Except.bind]
      rw [skipSpaces_cons rfl]
      simp only
      rw [ih (fun k hk => h k (List.mem_cons_of_mem _ hk)) hitems
        (by simp only [List.length_cons] at hfuel; omega)]
      simp

/-- **A member is read from what is written of it.** -/
theorem readMembers_member {j : Json} (hj : Reads j) (name : String) (level fuel : Nat)
    (hfuel : (prettyAt level j).toList.length ≤ fuel) (done : List (String × Json))
    {behind : List Char} (hbehind : Ends behind) :
    readMembers (fuel + 1) (some done) ((newLine level).toList ++
        '"' :: name.toList.flatMap escapeChar ++ '"' :: ':' :: ' ' :: (prettyAt level j).toList ++
          behind) =
      match skipSpaces behind with
      | ',' :: rest => readMembers fuel (some ((name, j) :: done)) rest
      | '\x7d' :: rest => .ok (some ((name, j) :: done).reverse, rest)
      | c :: _ => .error (.unexpected c)
      | [] => .error .ended := by
  have htext : (newLine level).toList ++ '"' :: name.toList.flatMap escapeChar ++
      '"' :: ':' :: ' ' :: (prettyAt level j).toList ++ behind =
        (newLine level).toList ++ '"' :: (name.toList.flatMap escapeChar ++
          '"' :: (':' :: ' ' :: ((prettyAt level j).toList ++ behind))) := by
    simp
  have hvalue : readValue fuel (' ' :: ((prettyAt level j).toList ++ behind)) =
      .ok (j, behind) := by
    rw [← readValue_skipSpaces, skipSpaces_space, readValue_skipSpaces]
    exact hj level fuel behind hbehind hfuel
  rw [htext, readMembers, skipSpaces_newLine, skipSpaces_cons rfl]
  simp only [readText_quote, bind, Except.bind]
  rw [skipSpaces_cons rfl]
  simp only [hvalue]
  rfl

/-- **The members of an object are read up to its end.** -/
theorem readMembers_prettyMembers {members : List (String × Json)}
    (h : ∀ m ∈ members, Reads m.2) (hne : members ≠ []) (level level' : Nat) {fuel : Nat}
    (hfuel : (prettyMembers level members).toList.length ≤ fuel) (done : List (String × Json))
    (rest : List Char) :
    readMembers fuel (some done)
        ((prettyMembers level members).toList ++ ((newLine level').toList ++ '\x7d' :: rest)) =
      .ok (some (done.reverse ++ members), rest) := by
  induction members generalizing fuel done with
  | nil => exact absurd rfl hne
  | cons m members ih =>
    obtain ⟨name, j⟩ := m
    have hj : Reads j := h (name, j) (List.mem_cons_self ..)
    rw [toList_prettyMembers_cons] at hfuel ⊢
    simp only [List.length_append, List.length_cons] at hfuel
    obtain ⟨fuel, rfl⟩ := Nat.exists_eq_succ_of_ne_zero (by omega : fuel ≠ 0)
    rw [List.append_assoc]
    by_cases hmembers : members = []
    · subst hmembers
      rw [if_pos rfl, List.nil_append,
        readMembers_member hj name level fuel (by omega) done (ends_newLine _ _),
        skipSpaces_newLine, skipSpaces_cons rfl]
      simp
    · rw [if_neg hmembers] at hfuel ⊢
      rw [List.cons_append, readMembers_member hj name level fuel (by omega) done (ends_comma _),
        skipSpaces_cons rfl]
      simp only
      rw [ih (fun k hk => h k (List.mem_cons_of_mem _ hk)) hmembers
        (by simp only [List.length_cons] at hfuel; omega)]
      simp

/-- A list that is not closed at once is read item by item. -/
theorem readValue_list {cs : List Char} (h : ∀ rest, skipSpaces cs ≠ ']' :: rest) (fuel : Nat) :
    readValue (fuel + 1) ('[' :: cs) =
      (readItems fuel [] cs).map fun (items, rest) => (.list items, rest) := by
  rw [readValue, skipSpaces_cons rfl]
  dsimp only
  rw [if_neg (by decide), if_pos rfl]
  split
  · exact absurd ‹_› (h _)
  · rw [readItems_skipSpaces]
    cases readItems fuel [] cs <;> rfl

/-- An object that is not closed at once is read member by member. -/
theorem readValue_object {cs : List Char} (h : ∀ rest, skipSpaces cs ≠ '\x7d' :: rest)
    (fuel : Nat) :
    readValue (fuel + 1) ('\x7b' :: cs) =
      (readMembers fuel (some []) cs).map fun (members, rest) =>
        (members.elim .garbled .object, rest) := by
  rw [readValue, skipSpaces_cons rfl]
  dsimp only
  rw [if_neg (by decide), if_neg (by decide), if_pos rfl]
  split
  · exact absurd ‹_› (h _)
  · rw [readMembers_skipSpaces]
    cases readMembers fuel (some []) cs <;> rfl

/-- **Every plain value is read from what is written of it.** -/
theorem Plain.reads {j : Json} (h : j.Plain) : Reads j := by
  induction h with
  | null =>
    intro level fuel rest hrest hfuel
    obtain ⟨fuel, rfl⟩ := exists_fuel .null hfuel
    rw [toList_prettyAt_null]
    rfl
  | bool b =>
    intro level fuel rest hrest hfuel
    obtain ⟨fuel, rfl⟩ := exists_fuel (.bool b) hfuel
    rw [toList_prettyAt_bool]
    cases b <;> rfl
  | nat n =>
    intro level fuel rest hrest hfuel
    obtain ⟨fuel, rfl⟩ := exists_fuel (.nat n) hfuel
    have hnumber := readNumber_toDigits n hrest
    obtain ⟨c, cs, heq⟩ := List.exists_cons_of_ne_nil (Nat.toDigits_ne_nil (n := n) (b := 10))
    have hdigit : c.isDigit = true :=
      Nat.isDigit_of_mem_toDigits (by decide) (by decide) (heq ▸ List.mem_cons_self ..)
    have hne (d : Char) (hd : d.isDigit = false) : c ≠ d := by
      rintro rfl
      simp [hd] at hdigit
    rw [heq, List.cons_append] at hnumber
    rw [toList_prettyAt_nat, heq, List.cons_append, readValue,
      skipSpaces_cons (isSpace_of_isDigit hdigit)]
    dsimp only
    rw [if_neg (hne _ rfl), if_neg (hne _ rfl), if_neg (hne _ rfl), if_neg (hne _ rfl),
      if_pos hdigit, hnumber]
    rfl
  | text s =>
    intro level fuel rest hrest hfuel
    obtain ⟨fuel, rfl⟩ := exists_fuel (.text s) hfuel
    rw [toList_prettyAt_text, List.cons_append, List.cons_append, List.append_assoc, readValue,
      skipSpaces_cons rfl]
    dsimp only
    rw [if_pos rfl, List.singleton_append, readText_quote]
    rfl
  | @list items h ih =>
    intro level fuel rest hrest hfuel
    obtain ⟨fuel, rfl⟩ := exists_fuel (.list h) hfuel
    by_cases hnil : items = []
    · subst hnil
      simp only [prettyAt]
      rfl
    · rw [toList_prettyAt_list level hnil] at hfuel ⊢
      have htext : '[' :: (prettyItems (level + 1) items).toList ++ (newLine level).toList ++
          [']'] ++ rest = '[' :: ((prettyItems (level + 1) items).toList ++
            ((newLine level).toList ++ ']' :: rest)) := by
        simp
      rw [htext, readValue_list, readItems_prettyItems ih hnil (level + 1) level
        (by simp only [List.length_append, List.length_cons] at hfuel; omega)]
      · rfl
      · -- the first item does not begin with the bracket that closes the list
        obtain ⟨j, items, rfl⟩ := List.exists_cons_of_ne_nil hnil
        obtain ⟨c, cs, heq, hspace, hne⟩ :=
          exists_head?_prettyAt (h j (List.mem_cons_self ..)) (level + 1)
        intro rest' hskip
        rw [toList_prettyItems_cons, List.append_assoc, List.append_assoc, skipSpaces_newLine, heq,
          List.cons_append, skipSpaces_cons hspace] at hskip
        exact hne (List.cons.inj hskip).1
  | @object members h ih =>
    intro level fuel rest hrest hfuel
    obtain ⟨fuel, rfl⟩ := exists_fuel (.object h) hfuel
    by_cases hnil : members = []
    · subst hnil
      simp only [prettyAt]
      rfl
    · rw [toList_prettyAt_object level hnil] at hfuel ⊢
      have htext : '\x7b' :: (prettyMembers (level + 1) members).toList ++
          (newLine level).toList ++ ['\x7d'] ++ rest =
            '\x7b' :: ((prettyMembers (level + 1) members).toList ++
              ((newLine level).toList ++ '\x7d' :: rest)) := by
        simp
      rw [htext, readValue_object, readMembers_prettyMembers ih hnil (level + 1) level
        (by simp only [List.length_append, List.length_cons] at hfuel; omega)]
      · rfl
      · -- the first member begins with a quote
        obtain ⟨m, members, rfl⟩ := List.exists_cons_of_ne_nil hnil
        intro rest' hskip
        rw [toList_prettyMembers_cons] at hskip
        simp only [List.append_assoc, skipSpaces_newLine, List.cons_append] at hskip
        rw [skipSpaces_cons rfl] at hskip
        exact absurd (List.cons.inj hskip).1 (by decide)

/-- A plain value is read again from the characters that are written of it. -/
theorem readChars_pretty {j : Json} (h : j.Plain) : readChars j.pretty.toList = .ok j := by
  have hread := h.reads 0 (2 * j.pretty.toList.length + 2) [] (fun _ hc => by cases hc)
    (by show j.pretty.toList.length ≤ _; omega)
  rw [List.append_nil] at hread
  unfold readChars
  rw [show readValue (2 * j.pretty.toList.length + 2) j.pretty.toList = .ok (j, []) from hread]
  rfl

/-- **A plain value is read again from the bytes that are written of it.** -/
theorem readBytes_pretty {j : Json} (h : j.Plain) :
    readBytes j.pretty.toUTF8.toList = .ok j := by
  unfold readBytes
  rw [show Text.decodeExact? j.pretty.toUTF8.toList = some j.pretty from
    Text.decodeExact?_encode j.pretty]
  exact readChars_pretty h

end RtlFlow.Json
