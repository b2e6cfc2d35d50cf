import RtlFlow.Shell.Utility.Basic

/-! # Printing

The utilities that write their arguments: `echo` and `printf`, with the characters that a
backslash writes. -/

namespace RtlFlow.Shell

/-- The value of octal digits. -/
def octalValue (ds : List Char) : Nat := ds.foldl (fun n c => 8 * n + (c.toNat - 48)) 0

/-- Whether a character is an octal digit. -/
def isOctal (c : Char) : Bool := '0' ≤ c && c ≤ '7'

/-- The byte that octal digits write; the digits are at most three. -/
def octalByte (cs : List Char) : Char × List Char :=
  let digits := (cs.take 3).takeWhile isOctal
  (Char.ofNat (octalValue digits % 256), cs.drop digits.length)

/-- The letters that a backslash turns into other characters. -/
def escapeLetters : List (Char × Char) :=
  [('a', '\x07'), ('b', '\x08'), ('f', '\x0c'), ('n', '\n'), ('r', '\r'), ('t', '\t'),
    ('v', '\x0b'), ('\\', '\\'), ('"', '"')]

/-- What stands behind a backslash: the characters that it writes, and the rest. An unknown letter
stays as it is, with its backslash. -/
def escapeAt (cs : List Char) : List Char × List Char :=
  match cs with
  | [] => (['\\'], [])
  | c :: rest =>
    if isOctal c then
      let (byte, rest) := octalByte cs
      ([byte], rest)
    else
      match escapeLetters.lookup c with
      | some d => ([d], rest)
      | none => (['\\', c], rest)

/-- **A text with the escapes of an argument**: octal digits may follow a zero, and `c` ends the
whole output. Answers the text and whether output goes on. -/
def unescapeWithin (done : List Char) : Nat → List Char → List Char × Bool
  | 0, _ | _, [] => (done.reverse, true)
  | fuel + 1, c :: cs =>
    if c ≠ '\\' then unescapeWithin (c :: done) fuel cs
    else
      match cs with
      | 'c' :: _ => (done.reverse, false)
      | '0' :: rest =>
        let (byte, rest) := octalByte rest
        unescapeWithin (byte :: done) fuel rest
      | cs =>
        let (written, rest) := escapeAt cs
        unescapeWithin (written.reverse ++ done) fuel rest

/-- A text with the escapes of an argument. -/
def unescape (cs : List Char) : List Char × Bool := unescapeWithin [] (cs.length + 1) cs

/-- Fields with blanks between them. -/
def joinFields (fs : List Field) : List Char := (fs.intersperse [' ']).flatten

/-- **Writes arguments on a line**, with their escapes taken apart. -/
def echoEscaped : Utility := fun args _ =>
  let (newline, args) :=
    match args with
    | ['-', 'n'] :: rest => (false, rest)
    | args => (true, args)
  let (text, goesOn) := unescape (joinFields args)
  return .ofList (text ++ if newline && goesOn then ['\n'] else [])

/-- **Writes arguments on a line** as they are; with the option `e`, escapes are taken apart. -/
def echoPlain : Utility := fun args _ =>
  let isSwitch (f : Field) := 1 < f.length && f.head? = some '-' &&
    (f.drop 1).all fun c => c = 'n' || c = 'e' || c = 'E'
  let options := (args.takeWhile isSwitch).flatMap (·.drop 1)
  let text := joinFields (args.dropWhile isSwitch)
  let (text, goesOn) := if options.contains 'e' then unescape text else (text, true)
  return .ofList (text ++ if !options.contains 'n' && goesOn then ['\n'] else [])

/-- **A directive of a format.** -/
structure Directive where
  /-- Whether the text is put to the left. -/
  left : Bool
  /-- Whether a number is filled with zeros. -/
  zeros : Bool
  /-- Whether a number always has a sign. -/
  plus : Bool
  /-- The least width. -/
  width : Nat
  /-- The greatest number of characters of a text, or the least number of digits. -/
  precision : Option Nat
  /-- The letter of the conversion. -/
  letter : Char
  deriving Repr

namespace Directive

/-- Reads a directive behind its percent sign. -/
def read? (cs : List Char) : Option (Directive × List Char) :=
  let isFlag (c : Char) := c = '-' || c = '0' || c = '+' || c = ' ' || c = '#'
  let flags := cs.takeWhile isFlag
  let cs := cs.drop flags.length
  let width := cs.takeWhile Char.isDigit
  let cs := cs.drop width.length
  let (precision, cs) :=
    match cs with
    | '.' :: rest =>
      let digits := rest.takeWhile Char.isDigit
      (some ((natOf? digits).getD 0), rest.drop digits.length)
    | cs => (none, cs)
  match cs with
  | [] => none
  | c :: rest =>
    some (⟨flags.contains '-', flags.contains '0', flags.contains '+', (natOf? width).getD 0,
      precision, c⟩, rest)

/-- A text brought to the width of a directive. -/
def pad (d : Directive) (cs : List Char) : List Char :=
  let fill := List.replicate (d.width - cs.length) ' '
  if d.left then cs ++ fill else fill ++ cs

/-- A number with its sign, brought to the width of a directive. -/
def padNumber (d : Directive) (negative : Bool) (digits : List Char) : List Char :=
  let digits := List.replicate ((d.precision.getD 1) - digits.length) '0' ++ digits
  let sign := if negative then ['-'] else if d.plus then ['+'] else []
  if d.zeros && !d.left && d.precision.isNone then
    sign ++ List.replicate (d.width - sign.length - digits.length) '0' ++ digits
  else d.pad (sign ++ digits)

/-- The base of the digits that a letter asks for. -/
def base? : Char → Option Nat
  | 'd' | 'i' | 'u' => some 10
  | 'o' => some 8
  | 'x' | 'X' => some 16
  | _ => none

/-- The text of an argument under a directive, a complaint, and whether output goes on. -/
def apply (d : Directive) (arg : Option Field) : List Char × Option String × Bool :=
  let given := arg.getD []
  if d.letter = 's' then (d.pad (given.take (d.precision.getD given.length)), none, true)
  else if d.letter = 'c' then (d.pad (given.take 1), none, true)
  else if d.letter = 'b' then
    let (text, goesOn) := unescape given
    (d.pad text, none, goesOn)
  else
    match base? d.letter with
    | some base =>
      let value := if given.isEmpty then some 0 else intOf? given
      let n := value.getD 0
      let digits := Nat.toDigits base n.natAbs
      let digits := if d.letter = 'X' then digits.map Char.toUpper else digits
      let complaint := if value.isNone then
        some ("printf: " ++ Text.ofOctets given ++ ": expected numeric value") else none
      (d.padNumber (n < 0) digits, complaint, true)
    | none => ([], some ("printf: %" ++ d.letter.toString ++ ": invalid directive"), false)

end Directive

/-- What a format writes: the text, the complaints, the arguments that are left and whether output
goes on. `done` is the text so far, last character first. -/
def formatWithin (done : List Char) (complaints : List String) (args : List Field) :
    Nat → List Char → List Char × List String × List Field × Bool
  | 0, _ | _, [] => (done, complaints, args, true)
  | fuel + 1, '\\' :: cs =>
    let (written, rest) := escapeAt cs
    formatWithin (written.reverse ++ done) complaints args fuel rest
  | fuel + 1, '%' :: '%' :: cs => formatWithin ('%' :: done) complaints args fuel cs
  | fuel + 1, '%' :: cs =>
    match Directive.read? cs with
    | none => (done, complaints ++ ["printf: %: invalid directive"], args, false)
    | some (d, rest) =>
      let (written, complaint, goesOn) := d.apply args.head?
      let done := written.reverse ++ done
      let complaints := complaints ++ complaint.toList
      if goesOn then formatWithin done complaints (args.drop 1) fuel rest
      else (done, complaints, [], false)
  | fuel + 1, c :: cs => formatWithin (c :: done) complaints args fuel cs

/-- Applies a format again and again, as long as it uses up arguments. -/
def formatAll (format : List Char) (done : List Char) (complaints : List String) :
    Nat → List Field → List Char × List String
  | 0, _ => (done, complaints)
  | fuel + 1, args =>
    let (done, complaints, rest, goesOn) :=
      formatWithin done complaints args (format.length + 1) format
    if goesOn && !rest.isEmpty && rest.length < args.length then
      formatAll format done complaints fuel rest
    else (done, complaints)

/-- **Writes arguments by a format.** -/
def printf : Utility := fun args _ =>
  match args.dropWhile (· = ['-', '-']) with
  | [] => return ⟨.empty, ["printf: usage: printf format [arg ...]"], 2⟩
  | format :: args =>
    let (done, complaints) := formatAll format [] [] (args.length + 1) args
    return ⟨.ofList done.reverse, complaints, if complaints.isEmpty then 0 else 1⟩

end RtlFlow.Shell
