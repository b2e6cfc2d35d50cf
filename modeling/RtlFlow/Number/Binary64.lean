/-! # Binary floating point of 64 bits

The numbers of the 64-bit binary format as exact data: a finite number is `m · 2^e` with a sign.
Every operation computes the exact result as a quotient of natural numbers and rounds it once, to
the nearest number of the format and to the even one of two that are equally near. -/

namespace RtlFlow.Number

/-- **A number of the format.** A finite one is `± mantissa · 2^exponent`; the mantissa is below
`2^53`, and it is at least `2^52` unless the exponent has its least value, `-1074`. -/
inductive Binary64 where
  /-- Not a number. -/
  | nan
  /-- An infinity. -/
  | infinite (negative : Bool)
  /-- A finite number; both zeros are among these. -/
  | finite (negative : Bool) (mantissa : Nat) (exponent : Int)
  deriving DecidableEq, Repr, Inhabited

namespace Binary64

/-- The least exponent of a finite number. -/
def minExponent : Int := -1074

/-- The greatest exponent of a finite number. -/
def maxExponent : Int := 971

/-- The least mantissa of a number whose exponent is not the least one: `2^52`. -/
def hiddenBit : Nat := 4503599627370496

/-- Zero with a sign. -/
def zero (negative : Bool) : Binary64 := .finite negative 0 minExponent

/-- The quotient of two natural numbers rounded to the nearest one, a half to the even one. -/
def roundDiv (num den : Nat) : Nat :=
  let q := num / den
  let r := num % den
  if 2 * r < den then q else if 2 * r > den then q + 1 else if q % 2 = 0 then q else q + 1

/-- The numerator and denominator of `(num / den) / 2^e`. -/
def scaleDown (num den : Nat) (e : Int) : Nat × Nat :=
  if e < 0 then (num <<< e.natAbs, den) else (num, den <<< e.natAbs)

/-- **The number nearest to `num / den`**, with a sign; beyond the greatest number it is an
infinity. -/
def ofRatio (negative : Bool) (num den : Nat) : Binary64 :=
  if num = 0 then zero negative
  else
    let guess : Int := (Nat.log2 num : Int) - (Nat.log2 den : Int) - 52
    let (n₀, d₀) := scaleDown num den guess
    let fitted := if n₀ < d₀ <<< 52 then guess - 1 else guess
    let e := max fitted minExponent
    let (n, d) := scaleDown num den e
    let m := roundDiv n d
    let (m, e) := if m = 2 * hiddenBit then (hiddenBit, e + 1) else (m, e)
    if maxExponent < e then .infinite negative else .finite negative m e

/-- The natural number as a number of the format. -/
def ofNat (n : Nat) : Binary64 := ofRatio false n 1

/-- The magnitude of a finite number as a quotient. -/
def magnitude (mantissa : Nat) (exponent : Int) : Nat × Nat :=
  if exponent < 0 then (mantissa, 1 <<< exponent.natAbs) else (mantissa <<< exponent.natAbs, 1)

/-- The sum of two numbers neither of which is negative. -/
def addMagnitudes : Binary64 → Binary64 → Binary64
  | .finite _ m e, .finite _ m' e' =>
    let (n, d) := magnitude m e
    let (n', d') := magnitude m' e'
    ofRatio false (n * d' + n' * d) (d * d')
  | .nan, _ | _, .nan => .nan
  | _, _ => .infinite false

/-- Whether the number is a zero. -/
def isZero : Binary64 → Bool
  | .finite _ 0 _ => true
  | _ => false

/-- **The number nearest to a decimal**: `digits · 10^exponent` with a sign. The exponent is
first bounded, since far beyond the range of the format its exact value makes no difference. -/
def ofDecimal (negative : Bool) (digits : Nat) (exponent : Int) : Binary64 :=
  if digits = 0 then zero negative
  else
    let size : Int := ((Nat.toDigits 10 digits).length : Int) + exponent
    if 400 < size then .infinite negative
    else if size < -400 then zero negative
    else if exponent < 0 then ofRatio negative digits (Nat.pow 10 exponent.natAbs)
    else ofRatio negative (digits * Nat.pow 10 exponent.natAbs) 1

end Binary64

end RtlFlow.Number
