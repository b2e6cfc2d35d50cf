import RtlFlow.Json.Reading
import RtlFlow.Timestamp
import RtlFlow.Toml.Basic

/-! # Strings, numbers and dates of TOML

Readers for the values that hold no other values. A reader answers what it has read with the rest
of the text. -/

namespace RtlFlow.Toml

open RtlFlow.Number

/-- Whether a character may stand in a string or comment: no control character but the
tabulator. -/
def isPrintable (c : Char) : Bool := c = '\t' || (' ' ≤ c && c ≠ '\x7f')

/-- The rest behind a line end. -/
def dropNewline? : List Char → Option (List Char)
  | '\n' :: rest => some rest
  | '\r' :: '\n' :: rest => some rest
  | _ => none

/-- Whether a character is a blank inside a line. -/
def isSpace (c : Char) : Bool := c = ' ' || c = '\t'

/-- The rest behind blanks. -/
def skipSpaces (cs : List Char) : List Char := cs.dropWhile isSpace

/-- The character that hexadecimal digits write. -/
def codePoint? (ds : List Char) : Option Char := do
  let digits ← ds.mapM Json.hexDigit?
  let n := digits.foldl (fun n d => 16 * n + d) 0
  if n.isValidChar then some (Char.ofNat n) else none

/-- Reads the code point of an escape with a number of digits. -/
def readCodePoint (count : Nat) (cs : List Char) : Except ReadError (Char × List Char) :=
  if (cs.take count).length < count then .error .escape
  else
    match codePoint? (cs.take count) with
    | some c => .ok (c, cs.drop count)
    | none => .error .escape

/-- Reads an escape behind its backslash. -/
def readEscape : List Char → Except ReadError (Char × List Char)
  | 'b' :: rest => .ok ('\x08', rest)
  | 't' :: rest => .ok ('\t', rest)
  | 'n' :: rest => .ok ('\n', rest)
  | 'f' :: rest => .ok ('\x0c', rest)
  | 'r' :: rest => .ok ('\r', rest)
  | '"' :: rest => .ok ('"', rest)
  | '\\' :: rest => .ok ('\\', rest)
  | 'u' :: rest => readCodePoint 4 rest
  | 'U' :: rest => readCodePoint 8 rest
  | _ => .error .escape

/-- Reads a string on one line up to its closing quote; `done` holds its characters, last one
first. -/
def readLine (quote : Char) (escapes : Bool) (done : List Char) :
    Nat → List Char → Except ReadError (String × List Char)
  | 0, _ | _, [] => .error .ended
  | fuel + 1, c :: rest =>
    if c = quote then .ok (String.ofList done.reverse, rest)
    else if c = '\\' && escapes then do
      let (e, rest) ← readEscape rest
      readLine quote escapes (e :: done) fuel rest
    else if isPrintable c then readLine quote escapes (c :: done) fuel rest
    else .error (.unexpected c)

/-- The rest behind blanks and line ends. -/
def skipLines : Nat → List Char → List Char
  | 0, cs => cs
  | fuel + 1, cs =>
    match dropNewline? (skipSpaces cs) with
    | some rest => skipLines fuel rest
    | none => skipSpaces cs

/-- Reads a string on several lines up to its three closing quotes, before which two more quotes
may stand. -/
def readBlock (quote : Char) (escapes : Bool) (done : List Char) :
    Nat → List Char → Except ReadError (String × List Char)
  | 0, _ | _, [] => .error .ended
  | fuel + 1, c :: rest =>
    if c = quote then
      let quotes := min 5 ((c :: rest).takeWhile (· = quote)).length
      if 3 ≤ quotes then
        .ok (String.ofList (List.replicate (quotes - 3) quote ++ done).reverse,
          (c :: rest).drop quotes)
      else readBlock quote escapes (c :: done) fuel rest
    else if c = '\\' && escapes then
      match dropNewline? (skipSpaces rest) with
      | some next => readBlock quote escapes done fuel (skipLines next.length next)
      | none => do
        let (e, rest) ← readEscape rest
        readBlock quote escapes (e :: done) fuel rest
    else
      match dropNewline? (c :: rest) with
      | some rest => readBlock quote escapes ('\n' :: done) fuel rest
      | none =>
        if isPrintable c then readBlock quote escapes (c :: done) fuel rest
        else .error (.unexpected c)

/-- **Reads a string** behind its first quote. -/
def readString (quote : Char) (cs : List Char) : Except ReadError (String × List Char) :=
  let escapes := quote = '"'
  match cs with
  | a :: b :: rest =>
    if a = quote && b = quote then
      readBlock quote escapes [] (rest.length + 1) ((dropNewline? rest).getD rest)
    else readLine quote escapes [] (cs.length + 1) cs
  | _ => readLine quote escapes [] (cs.length + 1) cs

/-! ### Numbers -/

/-- Digits that may have single underscores between them, without the underscores. -/
def digitRun (isDigit : Char → Bool) : List Char → List Char × List Char
  | [] => ([], [])
  | c :: cs =>
    if isDigit c then
      let (ds, rest) := digitRun isDigit cs
      (c :: ds, rest)
    else if c = '_' && (cs.head?.any isDigit) then digitRun isDigit cs
    else ([], c :: cs)

/-- Reads digits, of which the first is no underscore. -/
def readDigits (isDigit : Char → Bool) (cs : List Char) :
    Except ReadError (List Char × List Char) :=
  if cs.head?.any isDigit then .ok (digitRun isDigit cs) else .error .number

/-- An integer of 64 bits. -/
def boundedInt (n : Int) : Except ReadError Value :=
  if -9223372036854775808 ≤ n ∧ n ≤ 9223372036854775807 then .ok (.integer n) else .error .number

/-- Reads an integer in a base behind its mark. -/
def readBased (base : Nat) (cs : List Char) : Except ReadError (Value × List Char) := do
  let isDigit := fun c => (Json.hexDigit? c).any (· < base)
  let (ds, rest) ← readDigits isDigit cs
  let n := ds.foldl (fun n c => base * n + (Json.hexDigit? c).getD 0) 0
  return (← boundedInt n, rest)

/-- The digits before the point: one zero, or digits that begin with none. -/
def readWhole (cs : List Char) : Except ReadError (List Char × List Char) :=
  match cs with
  | '0' :: rest => .ok (['0'], rest)
  | cs => readDigits Char.isDigit cs

/-- The digits behind the point, if there is one. -/
def readPlaces (cs : List Char) : Except ReadError (List Char × List Char) :=
  match cs with
  | '.' :: rest => do
    let (ds, rest) ← readDigits Char.isDigit rest
    return ('.' :: ds, rest)
  | cs => .ok ([], cs)

/-- The exponent, if there is one. -/
def readExponent (cs : List Char) : Except ReadError (List Char × List Char) :=
  match cs with
  | c :: rest =>
    if c = 'e' ∨ c = 'E' then do
      let (sign, rest) :=
        match rest with
        | '-' :: rest => (['-'], rest)
        | '+' :: rest => ([], rest)
        | rest => ([], rest)
      let (ds, rest) ← readDigits Char.isDigit rest
      return ('e' :: (sign ++ ds), rest)
    else .ok ([], cs)
  | [] => .ok ([], cs)

/-- The number that a decimal text writes. One beyond the greatest number is refused, and one below
the least is minus infinity. -/
def floatOf (s : List Char) : Except ReadError Value :=
  match Binary64.parse? (String.ofList s) with
  | some (.infinite false) | none => .error .number
  | some x => .ok (.float x)

/-- Reads a number behind its sign. -/
def readMagnitude (negative : Bool) (cs : List Char) : Except ReadError (Value × List Char) := do
  match cs with
  | 'i' :: 'n' :: 'f' :: rest => return (.float (.infinite negative), rest)
  | 'n' :: 'a' :: 'n' :: rest => return (.float .nan, rest)
  | cs =>
    let (whole, rest) ← readWhole cs
    let (places, rest) ← readPlaces rest
    let (exponent, rest) ← readExponent rest
    let sign := if negative then ['-'] else []
    if places.isEmpty && exponent.isEmpty then
      let n : Int := digitsValue whole
      return (← boundedInt (if negative then -n else n), rest)
    else return (← floatOf (sign ++ whole ++ places ++ exponent), rest)

/-- **Reads a number.** -/
def readNumber (cs : List Char) : Except ReadError (Value × List Char) :=
  match cs with
  | '0' :: 'x' :: rest => readBased 16 rest
  | '0' :: 'o' :: rest => readBased 8 rest
  | '0' :: 'b' :: rest => readBased 2 rest
  | '+' :: rest => readMagnitude false rest
  | '-' :: rest => readMagnitude true rest
  | cs => readMagnitude false cs

/-! ### Dates -/

/-- Reads two digits with a value up to a bound. -/
def twoDigits? (high : Nat) : List Char → Option (List Char × List Char)
  | a :: b :: rest =>
    if a.isDigit && b.isDigit && digitsValue [a, b] ≤ high then some ([a, b], rest) else none
  | _ => none

/-- Reads a date. -/
def date? : List Char → Option (List Char × List Char)
  | a :: b :: c :: d :: '-' :: rest => do
    if !([a, b, c, d].all Char.isDigit) then none
    let (month, rest) ← twoDigits? 12 rest
    match rest with
    | '-' :: rest =>
      let days := Timestamp.daysIn (digitsValue [a, b, c, d]) (digitsValue month)
      let (day, rest) ← twoDigits? days rest
      if digitsValue month = 0 ∨ digitsValue day = 0 then none
      else some ([a, b, c, d, '-'] ++ month ++ ['-'] ++ day, rest)
    | _ => none
  | _ => none

/-- The digits of a fraction of a second in normal form: at most nine, and no zeros at the end. -/
def fractionText (ds : List Char) : List Char :=
  let ds := ((ds.take 9).reverse.dropWhile (· = '0')).reverse
  if ds.isEmpty then [] else '.' :: ds

/-- Reads a fraction of a second, if there is one. -/
def fraction? : List Char → Option (List Char × List Char)
  | '.' :: rest =>
    let ds := rest.takeWhile Char.isDigit
    if ds.isEmpty then none else some (fractionText ds, rest.dropWhile Char.isDigit)
  | cs => some ([], cs)

/-- Reads a time of day. -/
def time? (cs : List Char) : Option (List Char × List Char) := do
  let (hour, rest) ← twoDigits? 23 cs
  match rest with
  | ':' :: rest =>
    let (minute, rest) ← twoDigits? 59 rest
    match rest with
    | ':' :: rest =>
      let (second, rest) ← twoDigits? 60 rest
      let (fraction, rest) ← fraction? rest
      some (hour ++ [':'] ++ minute ++ [':'] ++ second ++ fraction, rest)
    | _ => none
  | _ => none

/-- Reads the distance from universal time, if there is one. -/
def offset? (cs : List Char) : Option (List Char × List Char) :=
  match cs with
  | c :: rest =>
    if c = 'Z' ∨ c = 'z' then some (['Z'], rest)
    else if c = '+' ∨ c = '-' then do
      let (hour, rest) ← twoDigits? 23 rest
      match rest with
      | ':' :: rest =>
        let (minute, rest) ← twoDigits? 59 rest
        let sign := if digitsValue (hour ++ minute) = 0 then '+' else c
        some (sign :: (hour ++ [':'] ++ minute), rest)
      | _ => none
    else some ([], cs)
  | [] => some ([], cs)

/-- Whether a text can only be a date or a time of day. -/
def looksLikeDate (cs : List Char) : Bool :=
  let ds := cs.takeWhile Char.isDigit
  match (cs.drop ds.length).head? with
  | some '-' => ds.length == 4
  | some ':' => ds.length == 2
  | _ => false

/-- Reads a date with the time of day behind it, if there is one. -/
def dateAndTime? (cs : List Char) : Option (List Char × List Char) := do
  let (date, rest) ← date? cs
  match rest with
  | c :: more =>
    if (c = 'T' ∨ c = 't' ∨ c = ' ') ∧ more.head?.any Char.isDigit then
      let (time, rest) ← time? more
      let (offset, rest) ← offset? rest
      some (date ++ ['T'] ++ time ++ offset, rest)
    else some (date, rest)
  | [] => some (date, rest)

/-- **Reads a date or a time of day.** -/
def readDate (cs : List Char) : Except ReadError (Value × List Char) :=
  match (dateAndTime? cs).or (time? cs) with
  | some (text, rest) => .ok (.datetime (String.ofList text), rest)
  | none => .error .number

end RtlFlow.Toml
