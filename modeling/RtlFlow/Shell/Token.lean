import RtlFlow.Shell.Syntax

/-! # Tokens of the command shell

A script is cut into words, operators and line ends. The text between quotes and behind a dollar
sign is taken apart here, so a word comes out as the list of its pieces. -/

namespace RtlFlow.Shell

/-- **A token.** -/
inductive Token where
  /-- A word; a bare one is written without quotes and dollar signs. -/
  | word (w : Word) (bare : Bool)
  /-- An operator. -/
  | op (s : String)
  /-- The beginning of a redirection of a channel. -/
  | redirect (channel : Nat) (kind : RedirectKind)
  /-- The end of a line. -/
  | newline
  deriving DecidableEq, Repr, Inhabited

/-- Whether a character is a blank between words. -/
def isGap (c : Char) : Bool := c = ' ' || c = '\t' || c = '\r'

/-- Whether a character ends a word. -/
def endsWord (c : Char) : Bool :=
  isGap c || c = '\n' || c = ';' || c = '&' || c = '|' || c = '<' || c = '>' || c = '(' || c = ')'

/-- Whether a character may stand in the name of a variable. -/
def isNameChar (c : Char) : Bool := c.isAlphanum || c = '_'

/-- Whether a character is a variable by itself. -/
def isSpecial (c : Char) : Bool :=
  c.isDigit || c = '@' || c = '*' || c = '#' || c = '?' || c = '$' || c = '!' || c = '-'

/-- The text up to the parenthesis that closes `depth` open ones, and the rest behind it. -/
def closing (done : List Char) : Nat → List Char → List Char × List Char
  | _, [] => (done.reverse, [])
  | depth, c :: cs =>
    if c = ')' then
      if depth ≤ 1 then (done.reverse, cs) else closing (c :: done) (depth - 1) cs
    else closing (c :: done) (if c = '(' then depth + 1 else depth) cs

/-- The text up to a character, and the rest behind it. -/
def upTo (stop : Char) (cs : List Char) : List Char × List Char :=
  (cs.takeWhile (· ≠ stop), (cs.dropWhile (· ≠ stop)).drop 1)

/-- What is made of a variable, by what stands behind its name between braces. -/
def usageOf : List Char → Usage
  | ':' :: '-' :: text => .orElse true text
  | '-' :: text => .orElse false text
  | ':' :: '+' :: text => .instead true text
  | '+' :: text => .instead false text
  | '%' :: '%' :: pattern => .without true true pattern
  | '%' :: pattern => .without true false pattern
  | '#' :: '#' :: pattern => .without false true pattern
  | '#' :: pattern => .without false false pattern
  | _ => .plain

/-- A variable between braces, with what is made of it. -/
def bracedVariable (quoted : Bool) (cs : List Char) : Piece :=
  let nameIn (cs : List Char) : List Char :=
    if cs.head?.any isNameChar then cs.takeWhile isNameChar else cs.take 1
  match cs with
  | '#' :: c :: rest => .variable (String.ofList (nameIn (c :: rest))) .length quoted
  | cs =>
    let name := nameIn cs
    .variable (String.ofList name) (usageOf (cs.drop name.length)) quoted

/-- The piece that begins with a dollar sign, which is passed already. -/
def dollarPiece (quoted : Bool) (cs : List Char) : Piece × List Char :=
  match cs with
  | '(' :: '(' :: rest =>
    let (inner, rest) := closing [] 1 rest
    (.number inner, rest.dropWhile (· = ')'))
  | '(' :: rest =>
    let (inner, rest) := closing [] 1 rest
    (.output inner quoted, rest)
  | '\x7b' :: rest =>
    let (inner, rest) := upTo '\x7d' rest
    (bracedVariable quoted inner, rest)
  | c :: rest =>
    if isNameChar c && !c.isDigit then
      (.variable (String.ofList ((c :: rest).takeWhile isNameChar)) .plain quoted,
        (c :: rest).dropWhile isNameChar)
    else if isSpecial c then (.variable c.toString .plain quoted, rest)
    else (.text ['$'], cs)
  | [] => (.text ['$'], [])

/-- Puts a character behind the pieces so far, which stand last one first. -/
def addChar (c : Char) : Word → Word
  | .text s :: rest => .text (s ++ [c]) :: rest
  | pieces => .text [c] :: pieces

/-- Reads text between double quotes; `pieces` are the pieces so far, last one first. -/
def doubleQuoted (pieces : Word) : Nat → List Char → Option (Word × List Char)
  | 0, _ | _, [] => none
  | fuel + 1, c :: cs =>
    if c = '"' then some (pieces, cs)
    else if c = '\\' then
      match cs with
      | d :: rest =>
        if d = '\n' then doubleQuoted pieces fuel rest
        else if ['$', '\x60', '"', '\\'].contains d then doubleQuoted (addChar d pieces) fuel rest
        else doubleQuoted (addChar d (addChar '\\' pieces)) fuel rest
      | [] => none
    else if c = '$' then
      let (piece, rest) := dollarPiece true cs
      doubleQuoted (piece :: pieces) fuel rest
    else if c = '\x60' then
      let (inner, rest) := upTo '\x60' cs
      doubleQuoted (.output inner true :: pieces) fuel rest
    else doubleQuoted (addChar c pieces) fuel cs

/-- Reads a word; `pieces` are the pieces so far, last one first. -/
def readWord (pieces : Word) (bare : Bool) : Nat → List Char → Option (Word × Bool × List Char)
  | 0, _ => none
  | _, [] => some (pieces.reverse, bare, [])
  | fuel + 1, c :: cs =>
    if endsWord c then some (pieces.reverse, bare, c :: cs)
    else if c = '\'' then
      if cs.contains '\'' then
        let (inner, rest) := upTo '\'' cs
        readWord (.text inner :: pieces) false fuel rest
      else none
    else if c = '"' then
      match doubleQuoted (.text [] :: pieces) (cs.length + 1) cs with
      | some (pieces, rest) => readWord pieces false fuel rest
      | none => none
    else if c = '\\' then
      match cs with
      | '\n' :: rest => readWord pieces bare fuel rest
      | d :: rest => readWord (addChar d pieces) false fuel rest
      | [] => readWord (addChar '\\' pieces) false fuel []
    else if c = '$' then
      let (piece, rest) := dollarPiece false cs
      readWord (piece :: pieces) false fuel rest
    else if c = '\x60' then
      let (inner, rest) := upTo '\x60' cs
      readWord (.output inner false :: pieces) false fuel rest
    else readWord (addChar c pieces) bare fuel cs

/-- The redirection that stands at the beginning of a text. -/
def redirect? (channel : Option Nat) : List Char → Option (Token × List Char)
  | '>' :: '>' :: rest => some (.redirect (channel.getD 1) .append, rest)
  | '>' :: '&' :: rest => some (.redirect (channel.getD 1) .sameAs, rest)
  | '>' :: '|' :: rest => some (.redirect (channel.getD 1) .replace, rest)
  | '>' :: rest => some (.redirect (channel.getD 1) .replace, rest)
  | '<' :: '&' :: rest => some (.redirect (channel.getD 0) .sameAs, rest)
  | '<' :: rest => some (.redirect (channel.getD 0) .input, rest)
  | _ => none

/-- The operator that stands at the beginning of a text. -/
def operator? : List Char → Option (Token × List Char)
  | '&' :: '&' :: rest => some (.op "&&", rest)
  | '|' :: '|' :: rest => some (.op "||", rest)
  | ';' :: ';' :: rest => some (.op ";;", rest)
  | ';' :: rest => some (.op ";", rest)
  | '&' :: rest => some (.op "&", rest)
  | '|' :: rest => some (.op "|", rest)
  | '(' :: rest => some (.op "(", rest)
  | ')' :: rest => some (.op ")", rest)
  | '\n' :: rest => some (.newline, rest)
  | _ => none

/-- The channel and the rest, when a text begins with the redirection of a channel with a
number. -/
def numbered? (cs : List Char) : Option (Token × List Char) :=
  let digits := cs.takeWhile Char.isDigit
  if digits.isEmpty then none else redirect? (String.ofList digits).toNat? (cs.drop digits.length)

/-- Cuts a text into tokens with the numbers of their lines. -/
def tokensFrom (line : Nat) : Nat → List Char → Option (List (Token × Nat))
  | 0, _ => none
  | _, [] => some []
  | fuel + 1, c :: cs =>
    if isGap c then tokensFrom line fuel cs
    else if c = '#' then tokensFrom line fuel (cs.dropWhile (· ≠ '\n'))
    else if c = '\\' && cs.head? = some '\n' then tokensFrom (line + 1) fuel (cs.drop 1)
    else
      match (redirect? none (c :: cs)).or ((numbered? (c :: cs)).or (operator? (c :: cs))) with
      | some (token, rest) => do
        let more ← tokensFrom (if token = .newline then line + 1 else line) fuel rest
        return (token, line) :: more
      | none => do
        let (word, bare, rest) ← readWord [] true (cs.length + 2) (c :: cs)
        let passed := (c :: cs).take (cs.length + 1 - rest.length)
        let more ← tokensFrom (line + passed.count '\n') fuel rest
        return (.word word bare, line) :: more

/-- **The tokens of a script**, with the numbers of their lines; none when a quote is not
closed. -/
def tokens (cs : List Char) : Option (List (Token × Nat)) := tokensFrom 1 (cs.length + 1) cs

end RtlFlow.Shell
