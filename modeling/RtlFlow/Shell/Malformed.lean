import RtlFlow.Shell.Reading

/-! # What is wrong with a script

The complaint about a script that cannot be read: the first token that does not fit, and what is
expected there to close the compound commands that are open. -/

namespace RtlFlow.Shell

/-- A token that does not fit, with its line and what is expected in its place. -/
structure Misfit where
  /-- The token as it is named; none at the end of the script. -/
  token : Option String
  /-- Its line; none at the end of the script. -/
  line : Option Nat
  /-- What is expected. -/
  expected : Option String
  deriving DecidableEq, Repr, Inhabited

/-- The keywords that open a compound command, with the keyword that must come next. -/
def openers : List (String × String) :=
  [("if", "then"), ("while", "do"), ("until", "do"), ("for", "do"), ("case", "esac"),
    ("\x7b", "\x7d")]

/-- The keywords that continue a compound command where they are expected, with the one that must
come next; none when the command is closed. -/
def successors : List (String × Option String) :=
  [("then", some "fi"), ("do", some "done"), ("fi", none), ("done", none), ("esac", none),
    ("\x7d", none)]

/-- Looks for the first token that does not fit. `pending` holds the keywords that must still come,
innermost first, and `fresh` says whether a command may begin. -/
def misfitFrom (pending : List String) (fresh : Bool) : Tokens → Misfit
  | [] => ⟨none, none, pending.head?⟩
  | (t, line) :: rest =>
    let here (s : String) : Misfit := ⟨some ("\"" ++ s ++ "\""), some line, pending.head?⟩
    match t with
    | .newline => misfitFrom pending true rest
    | .redirect .. => misfitFrom pending false rest
    | .op "(" => if fresh then misfitFrom (")" :: pending) true rest else here "("
    | .op ")" =>
      if pending.head? = some ")" then misfitFrom (pending.drop 1) false rest
      else if pending.head? = some "esac" then misfitFrom pending true rest
      else here ")"
    | .op ";;" => if pending.head? = some "esac" then misfitFrom pending true rest else here ";;"
    | .op s => if fresh then here s else misfitFrom pending true rest
    | .word w bare =>
      match if fresh then bareText? (.word w bare) else none with
      | none => misfitFrom pending false rest
      | some s =>
        match openers.lookup s, successors.lookup s with
        | some next, _ => misfitFrom (next :: pending) (next != "esac" && s != "for") rest
        | none, some next =>
          if pending.head? = some s then
            misfitFrom (next.toList ++ pending.drop 1) next.isSome rest
          else here s
        | none, none =>
          if s = "else" || s = "elif" then
            if pending.head? = some "fi" then
              misfitFrom (if s = "elif" then "then" :: pending.drop 1 else pending) true rest
            else here s
          else misfitFrom pending (s = "!") rest

/-- **What a shell says about a script that cannot be read**, with the line that it names. -/
def syntaxComplaint (script : List Char) : String × Nat :=
  let final := script.count '\n' + 1
  match tokens script with
  | none => ("Syntax error: Unterminated quoted string", final)
  | some ts =>
    let m := misfitFrom [] true ts
    let expected := match m.expected with
      | some s => " (expecting \"" ++ s ++ "\")"
      | none => ""
    ("Syntax error: " ++ m.token.getD "end of file" ++ " unexpected" ++ expected,
      m.line.getD final)

end RtlFlow.Shell
