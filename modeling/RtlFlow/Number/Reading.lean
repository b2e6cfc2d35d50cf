import RtlFlow.Number.Binary64

/-! # Reading floating point numbers

`Binary64.parse?` reads a decimal numeral with an optional point and exponent, an infinity or a
not-a-number, and answers the nearest number. -/

namespace RtlFlow.Number

/-- The number that decimal digits write. -/
def digitsValue (cs : List Char) : Nat := cs.foldl (fun n c => 10 * n + (c.toNat - 48)) 0

/-- The sign in front of a numeral, and the rest. -/
def takeSign : List Char → Bool × List Char
  | '-' :: cs => (true, cs)
  | '+' :: cs => (false, cs)
  | cs => (false, cs)

/-- The exponent behind a numeral: `none` when the text is no exponent, `some 0` when it is
empty. -/
def exponent? : List Char → Option Int
  | [] => some 0
  | c :: cs =>
    if c = 'e' ∨ c = 'E' then
      let (negative, ds) := takeSign cs
      if !ds.isEmpty && ds.all Char.isDigit then
        let n : Int := digitsValue ds
        some (if negative then -n else n)
      else none
    else none

/-- An unsigned numeral: digits with an optional point, at least one digit in all, and an optional
exponent. -/
def numeral? (negative : Bool) (cs : List Char) : Option Binary64 :=
  let whole := cs.takeWhile Char.isDigit
  let rest := cs.dropWhile Char.isDigit
  let (places, rest) :=
    match rest with
    | '.' :: rest => (rest.takeWhile Char.isDigit, rest.dropWhile Char.isDigit)
    | _ => ([], rest)
  if whole.isEmpty && places.isEmpty then none
  else
    (exponent? rest).map fun e =>
      Binary64.ofDecimal negative (digitsValue (whole ++ places)) (e - (places.length : Int))

/-- **A number read from text.** The words for infinity and for no number may be in any case. -/
def Binary64.parse? (s : String) : Option Binary64 :=
  let (negative, cs) := takeSign s.toList
  match String.ofList (cs.map Char.toLower) with
  | "inf" | "infinity" => some (.infinite negative)
  | "nan" => some .nan
  | _ => numeral? negative cs

end RtlFlow.Number
