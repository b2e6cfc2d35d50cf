import RtlFlow.Proofs.Vhdl.Readers
import RtlFlow.Vhdl.Scan

/-! # Searching the tokens

The search for a kind of clause, which passes a text character by character, is one on the tokens of
the text (`Finds`): at each token the clause is there, and the search goes on behind it, or it is
not, and the search goes on with the next token. -/

namespace RtlFlow.Vhdl

open RtlFlow.Text
open RtlFlow.Text.Unicode

variable {α : Type} {form? : List Token → Option (α × List Token)}

/-- **What is found from left to right.** -/
inductive Finds (form? : List Token → Option (α × List Token)) : List Token → List α → Prop
  /-- Nothing, at the end. -/
  | nil : Finds form? [] []
  /-- No clause starts at a token. -/
  | skip {t : Token} {ts : List Token} {found : List α} (hmiss : form? (t :: ts) = none)
      (h : Finds form? ts found) : Finds form? (t :: ts) found
  /-- A clause starts there. -/
  | hit {t : Token} {ts rest : List Token} {a : α} {found : List α}
      (hhit : form? (t :: ts) = some (a, rest)) (h : Finds form? rest found) :
      Finds form? (t :: ts) (a :: found)

/-- **There is one thing to find.** -/
theorem Finds.unique {ts : List Token} {x y : List α} (hx : Finds form? ts x)
    (hy : Finds form? ts y) : x = y := by
  induction hx generalizing y with
  | nil =>
    cases hy
    rfl
  | skip hmiss _ ih =>
    cases hy with
    | skip _ hy => exact ih hy
    | hit hhit _ => rw [hmiss] at hhit; cases hhit
  | hit hhit _ ih =>
    cases hy with
    | skip hmiss _ => rw [hmiss] at hhit; cases hhit
    | hit hhit' hy =>
      rw [hhit] at hhit'
      cases hhit'
      rw [ih hy]

/-- **Tokens at none of which a clause starts** are passed. -/
theorem Finds.pass {ts rest : List Token} {found : List α}
    (hmiss : ∀ t before, t :: before <:+ ts → form? (t :: before ++ rest) = none)
    (h : Finds form? rest found) : Finds form? (ts ++ rest) found := by
  induction ts with
  | nil => exact h
  | cons t ts ih =>
    exact .skip (hmiss t ts List.suffix_rfl)
      (ih fun u before hsuffix => hmiss u before (hsuffix.trans (List.suffix_cons ..)))

/-- **There is something to find** when a clause takes at least the token at which it starts. -/
theorem exists_finds
    (hshorter : ∀ t ts a rest, form? (t :: ts) = some (a, rest) → rest.length ≤ ts.length)
    (ts : List Token) : ∃ found, Finds form? ts found := by
  induction hn : ts.length using Nat.strong_induction_on generalizing ts with
  | _ n ih =>
    subst hn
    cases ts with
    | nil => exact ⟨[], .nil⟩
    | cons t ts =>
      cases hform : form? (t :: ts) with
      | none =>
        obtain ⟨found, h⟩ := ih ts.length (Nat.lt_succ_self _) ts rfl
        exact ⟨found, .skip hform h⟩
      | some p =>
        obtain ⟨a, rest⟩ := p
        have hlt : rest.length < (t :: ts).length := Nat.lt_succ_of_le (hshorter t ts a rest hform)
        obtain ⟨found, h⟩ := ih rest.length hlt rest rfl
        exact ⟨a :: found, .hit hform h⟩

/-! ## The search on characters -/

variable {clause? : List Char → Option (α × List Char)}

/-- **The search on characters finds what the search on tokens finds.** Inside a word it goes on
with the tokens behind the word. -/
theorem finds_findFrom
    (hread : ∀ cs, Reads cs (clause? (skipBlanks cs)) (form? (tokens cs)))
    (hsign : ∀ c ts, form? (.sign c :: ts) = none) (fuel : Nat) (inWord : Bool) (cs : List Char)
    (found : List α) (hfuel : cs.length ≤ fuel) :
    ∃ more, findFrom clause? found fuel inWord cs = found.reverse ++ more ∧
      Finds form? (tokens (if inWord then cs.dropWhile isWordChar else cs)) more := by
  induction fuel generalizing inWord cs found with
  | zero =>
    obtain rfl := List.length_eq_zero_iff.mp (Nat.le_zero.mp hfuel)
    refine ⟨[], (List.append_nil _).symm, ?_⟩
    rw [List.dropWhile_nil, ite_self, tokens]
    exact .nil
  | succ fuel ih =>
    cases cs with
    | nil =>
      refine ⟨[], (List.append_nil _).symm, ?_⟩
      rw [List.dropWhile_nil, ite_self, tokens]
      exact .nil
    | cons c cs =>
      rw [List.length_cons] at hfuel
      rw [findFrom]
      by_cases hc : isWordChar c = true
      · cases inWord with
        | true =>
          -- the word goes on, and no clause is tried inside of it
          obtain ⟨more, heq, hfinds⟩ := ih true cs found (by omega)
          rw [if_pos (by simp), hc, if_pos rfl, List.dropWhile_cons_of_pos hc]
          exact ⟨more, heq, hfinds⟩
        | false =>
          -- a word starts here, which is where a clause is tried
          have hblank : ¬ isBlank c = true := fun hblank => by
            simp [isWordChar_of_isBlank hblank] at hc
          have hreads := hread (c :: cs)
          rw [skipBlanks, List.dropWhile_cons_of_neg hblank] at hreads
          rw [if_neg (by simp [hc]), if_neg Bool.false_ne_true]
          cases hclause : clause? (c :: cs) with
          | none =>
            obtain ⟨more, heq, hfinds⟩ := ih true cs found (by omega)
            have hmiss := hreads.eq
            rw [hclause, tokens_word hc] at hmiss
            rw [tokens_word hc]
            exact ⟨more, heq, .skip hmiss.symm hfinds⟩
          | some p =>
            obtain ⟨a, rest⟩ := p
            have hshorter : rest.length < cs.length + 1 := hreads.shorter _ hclause
            obtain ⟨more, heq, hfinds⟩ :=
              ih false rest (a :: found) (Nat.le_of_lt_succ (hshorter.trans_le hfuel))
            have hhit := hreads.eq
            rw [hclause, tokens_word hc] at hhit
            rw [tokens_word hc]
            exact ⟨a :: more, heq.trans (by simp), .hit hhit.symm hfinds⟩
      · -- behind a character that is part of no word the next one may start
        rw [Bool.not_eq_true] at hc
        obtain ⟨more, heq, hfinds⟩ := ih false cs found (by omega)
        have hdrop : (c :: cs).dropWhile isWordChar = c :: cs :=
          List.dropWhile_cons_of_neg (by simp [hc])
        rw [if_pos (by simp [hc]), hc, hdrop, ite_self]
        refine ⟨more, heq, ?_⟩
        by_cases hblank : isBlank c = true
        · rw [tokens_blank hblank]
          exact hfinds
        · rw [tokens_sign hc (by simpa using hblank)]
          exact .skip (hsign c _) hfinds

/-- **All that a reader finds in a text** is found in its tokens. -/
theorem finds_findAll (hread : ∀ cs, Reads cs (clause? (skipBlanks cs)) (form? (tokens cs)))
    (hsign : ∀ c ts, form? (.sign c :: ts) = none) (cs : List Char) :
    Finds form? (tokens cs) (findAll clause? cs) := by
  obtain ⟨more, heq, hfinds⟩ := finds_findFrom hread hsign cs.length false cs [] le_rfl
  rw [findAll, heq]
  exact hfinds

/-! ## The kinds of clauses -/

variable (cs : List Char)

theorem finds_libraryClauses :
    Finds Token.libraryClause? (tokens cs) (findAll libraryClause? cs) :=
  finds_findAll reads_libraryClause (fun _ _ => rfl) cs

theorem finds_useClauses : Finds Token.useClause? (tokens cs) (findAll useClause? cs) :=
  finds_findAll reads_useClause (fun _ _ => rfl) cs

theorem finds_packageClauses :
    Finds (Token.declaration? "package") (tokens cs) (findAll packageClause? cs) :=
  finds_findAll (reads_declaration (by decide)) (fun _ _ => rfl) cs

theorem finds_entityClauses :
    Finds (Token.declaration? "entity") (tokens cs) (findAll entityClause? cs) :=
  finds_findAll (reads_declaration (by decide)) (fun _ _ => rfl) cs

theorem finds_instantiations :
    Finds Token.instantiation? (tokens cs) (findAll instantiation? cs) :=
  finds_findAll reads_instantiation (fun _ _ => rfl) cs

end RtlFlow.Vhdl
