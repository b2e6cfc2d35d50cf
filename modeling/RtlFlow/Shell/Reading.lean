import RtlFlow.Shell.Token

/-! # Reading scripts

The commands that the tokens of a script write. -/

namespace RtlFlow.Shell

/-- The tokens that are still to be read, with the numbers of their lines. -/
abbrev Tokens := List (Token × Nat)

/-- The text of a bare word. -/
def bareText? : Token → Option String
  | .word [.text s] true => some (String.ofList s)
  | _ => none

/-- The words that end or continue a compound command where a command could begin. -/
def closers : List String := ["then", "elif", "else", "fi", "do", "done", "esac", "\x7d"]

/-- Drops line ends. -/
def skipNewlines (ts : Tokens) : Tokens := ts.dropWhile fun (t, _) => t = .newline

/-- Drops line ends and semicolons. -/
def skipSeparators (ts : Tokens) : Tokens := ts.dropWhile fun (t, _) => t = .newline || t = .op ";"

/-- The rest behind a keyword. -/
def dropKeyword? (keyword : String) : Tokens → Option Tokens
  | (t, _) :: rest => if bareText? t = some keyword then some rest else none
  | [] => none

/-- The assignment that a word writes. -/
def assignment? : Token → Option (String × Word)
  | .word (.text s :: pieces) _ =>
    let name := s.takeWhile isNameChar
    match s.drop name.length with
    | '=' :: value =>
      if name.isEmpty || name.head?.any Char.isDigit then none
      else some (String.ofList name, if value.isEmpty then pieces else .text value :: pieces)
    | _ => none
  | _ => none

/-- Reads redirections and the rest behind them. -/
def readRedirects : Tokens → List Redirect × Tokens
  | (.redirect channel kind, _) :: (.word w _, _) :: rest =>
    let (more, rest) := readRedirects rest
    (⟨channel, kind, w⟩ :: more, rest)
  | ts => ([], ts)

/-- Reads a simple command: assignments first, then words, with redirections anywhere. -/
def readSimple (line : Nat) (assigns : List (String × Word)) (words : List Word)
    (redirects : List Redirect) : Tokens → Command × Tokens
  | (.redirect channel kind, _) :: (.word w _, _) :: rest =>
    readSimple line assigns words (redirects ++ [⟨channel, kind, w⟩]) rest
  | (.word w bare, _) :: rest =>
    match words, assignment? (.word w bare) with
    | [], some a => readSimple line (assigns ++ [a]) [] redirects rest
    | _, _ => readSimple line assigns (words ++ [w]) redirects rest
  | ts => (.simple line assigns words redirects, ts)

/-- The command with the redirections that stand behind it. -/
def withRedirects (c : Command) (ts : Tokens) : Command × Tokens :=
  let (redirects, rest) := readRedirects ts
  (if redirects.isEmpty then c else .redirected c redirects, rest)

/-- Reads words up to the end of a line or a semicolon. -/
def readWords (words : List Word) : Tokens → List Word × Tokens
  | (.word w _, _) :: rest => readWords (words ++ [w]) rest
  | ts => (words, ts)

/-- Reads patterns up to the parenthesis behind them. -/
def readPatterns : Tokens → Option (List Word × Tokens)
  | (.word w _, _) :: (.op ")", _) :: rest => some ([w], rest)
  | (.word w _, _) :: (.op "|", _) :: rest => do
    let (more, rest) ← readPatterns rest
    return (w :: more, rest)
  | _ => none

mutual

/-- Reads one command. -/
def readCommand : Nat → Tokens → Option (Command × Tokens)
  | 0, _ | _, [] => none
  | fuel + 1, (t, line) :: rest =>
    match t with
    | .op "(" => do
      let (c, rest) ← readList fuel rest
      match rest with
      | (.op ")", _) :: rest => return withRedirects (.subshell c) rest
      | _ => none
    | .word _ _ =>
      match bareText? t with
      | some "!" => do
        let (c, rest) ← readPipeline fuel rest
        return (.negate c, rest)
      | some "\x7b" => do
        let (c, rest) ← readList fuel rest
        return withRedirects c (← dropKeyword? "\x7d" rest)
      | some "if" => do
        let (c, rest) ← readBranch fuel rest
        return withRedirects c rest
      | some "while" => do
        let (c, rest) ← readLoop fuel true rest
        return withRedirects c rest
      | some "until" => do
        let (c, rest) ← readLoop fuel false rest
        return withRedirects c rest
      | some "for" => do
        let (c, rest) ← readFor fuel rest
        return withRedirects c rest
      | some "case" => do
        let (c, rest) ← readCase fuel rest
        return withRedirects c rest
      | some name =>
        if closers.contains name then none
        else
          match rest with
          | (.op "(", _) :: (.op ")", _) :: rest => do
            let (body, rest) ← readCommand fuel (skipNewlines rest)
            return (.define name body, rest)
          | _ => some (readSimple line [] [] [] ((t, line) :: rest))
      | none => some (readSimple line [] [] [] ((t, line) :: rest))
    | .redirect .. => some (readSimple line [] [] [] ((t, line) :: rest))
    | _ => none

/-- Reads a choice behind its first keyword. -/
def readBranch : Nat → Tokens → Option (Command × Tokens)
  | 0, _ => none
  | fuel + 1, ts => do
    let (condition, ts) ← readList fuel ts
    let (yes, ts) ← readList fuel (← dropKeyword? "then" ts)
    match dropKeyword? "fi" ts, dropKeyword? "else" ts, dropKeyword? "elif" ts with
    | some rest, _, _ => return (.branch condition yes .nothing, rest)
    | _, some rest, _ => do
      let (no, ts) ← readList fuel rest
      return (.branch condition yes no, ← dropKeyword? "fi" ts)
    | _, _, some rest => do
      let (no, rest) ← readBranch fuel rest
      return (.branch condition yes no, rest)
    | _, _, _ => none

/-- Reads a loop behind its first keyword. -/
def readLoop : Nat → Bool → Tokens → Option (Command × Tokens)
  | 0, _, _ => none
  | fuel + 1, holds, ts => do
    let (condition, ts) ← readList fuel ts
    let (body, ts) ← readList fuel (← dropKeyword? "do" ts)
    return (.loop holds condition body, ← dropKeyword? "done" ts)

/-- Reads a loop over words behind its first keyword. -/
def readFor : Nat → Tokens → Option (Command × Tokens)
  | 0, _ | _, [] => none
  | fuel + 1, (t, _) :: ts => do
    let name ← bareText? t
    let (words, ts) :=
      match dropKeyword? "in" (skipNewlines ts) with
      | some rest => readWords [] rest
      | none => ([[.variable "@" .plain true]], ts)
    let (body, ts) ← readList fuel (← dropKeyword? "do" (skipSeparators ts))
    return (.forEach name words body, ← dropKeyword? "done" ts)

/-- Reads a choice by patterns behind its first keyword. -/
def readCase : Nat → Tokens → Option (Command × Tokens)
  | 0, _ => none
  | fuel + 1, ts =>
    match ts with
    | (.word subject _, _) :: rest => do
      readArms fuel subject (skipNewlines (← dropKeyword? "in" (skipNewlines rest)))
    | _ => none

/-- Reads the patterns of a choice with their commands. -/
def readArms : Nat → Word → Tokens → Option (Command × Tokens)
  | 0, _, _ => none
  | fuel + 1, subject, ts =>
    match dropKeyword? "esac" ts with
    | some rest => some (.nothing, rest)
    | none => do
      let (patterns, ts) ← readPatterns (ts.dropWhile fun (t, _) => t = .op "(")
      let (body, ts) ← readList fuel ts
      let ts := skipNewlines (ts.dropWhile fun (t, _) => t = .op ";;")
      let (others, ts) ← readArms fuel subject ts
      return (.select subject patterns body others, ts)

/-- Reads commands with bars between them. -/
def readPipeline : Nat → Tokens → Option (Command × Tokens)
  | 0, _ => none
  | fuel + 1, ts => do
    let (a, ts) ← readCommand fuel ts
    match ts with
    | (.op "|", _) :: rest => do
      let (b, rest) ← readPipeline fuel (skipNewlines rest)
      return (.pipe a b, rest)
    | _ => return (a, ts)

/-- Reads what stands behind the first of several commands that depend on each other. -/
def readChain : Nat → Command → Tokens → Option (Command × Tokens)
  | 0, _, _ => none
  | fuel + 1, a, ts =>
    match ts with
    | (.op "&&", _) :: rest => do
      let (b, rest) ← readPipeline fuel (skipNewlines rest)
      readChain fuel (.both a b) rest
    | (.op "||", _) :: rest => do
      let (b, rest) ← readPipeline fuel (skipNewlines rest)
      readChain fuel (.either a b) rest
    | _ => some (a, ts)

/-- Reads commands up to a token that cannot begin one. -/
def readList : Nat → Tokens → Option (Command × Tokens)
  | 0, _ => none
  | fuel + 1, ts =>
    match skipNewlines ts with
    | [] => some (.nothing, [])
    | (t, l) :: rest =>
      if t = .op ")" || t = .op ";;" || (bareText? t).any closers.contains then
        some (.nothing, (t, l) :: rest)
      else do
        let (a, rest) ← readPipeline fuel ((t, l) :: rest)
        let (a, rest) ← readChain fuel a rest
        match rest with
        | (.op "&", _) :: rest => do
          let (b, rest) ← readList fuel rest
          return (.seq (.background a) b, rest)
        | (.op ";", _) :: rest | (.newline, _) :: rest => do
          let (b, rest) ← readList fuel rest
          return (.seq a b, rest)
        | _ => return (a, rest)

end

/-- **The command that a script writes**; none when it is malformed. -/
def parse (cs : List Char) : Option Command := do
  let ts ← tokens cs
  match ← readList (4 * ts.length + 8) ts with
  | (c, []) => some c
  | _ => none

end RtlFlow.Shell
