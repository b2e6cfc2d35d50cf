import RtlFlow.Number.Binary64

/-! # Decimal texts of floating point numbers

`shortest` finds the decimal with the fewest digits that reads back as the same number, and of
several such decimals the nearest to the number. `roundTo` gives a fixed number of places. The
texts are `Binary64.general`, in which a number always shows that it is no integer type and takes
an exponent when it is very large or very small, and `Binary64.positional`, which never takes
one. -/

namespace RtlFlow.Number

/-- **A decimal**: `digits · 10^exponent`. -/
structure Decimal where
  /-- The digits as one number. -/
  digits : Nat
  /-- The power of ten of the last digit. -/
  exponent : Int
  deriving DecidableEq, Repr, Inhabited

/-- The quotient `(num / den) / 10^k` as numerator and denominator. -/
def unscale10 (num den : Nat) (k : Int) : Nat × Nat :=
  if k < 0 then (num * Nat.pow 10 k.natAbs, den) else (num, den * Nat.pow 10 k.natAbs)

/-- The decimal on the grid of spacing `10^k` that lies between the bounds `lo / den` and
`hi / den` nearest to `val / den`, if there is one; the bounds count when `closed`. Only the two
grid points next to the value can be nearest, and of two that are equally near the upper is
taken. -/
def gridPoint? (lo val hi den : Nat) (closed : Bool) (k : Int) : Option Nat :=
  let inside (n : Nat) : Bool :=
    let (l, d) := unscale10 lo den k
    let (h, _) := unscale10 hi den k
    if closed then l ≤ n * d && n * d ≤ h else l < n * d && n * d < h
  let (v, d) := unscale10 val den k
  let below := v / d
  let above := below + 1
  match inside below, inside above with
  | true, true => if 2 * (v % d) < d then some below else some above
  | true, false => some below
  | false, true => some above
  | false, false => none

/-- Tries the grids from spacing `10^k` downwards, `fuel + 1` of them. -/
def firstGridPoint (lo val hi den : Nat) (closed : Bool) (k : Int) : Nat → Decimal
  | 0 => ⟨(gridPoint? lo val hi den closed k).getD 0, k⟩
  | fuel + 1 =>
    match gridPoint? lo val hi den closed k with
    | some n => ⟨n, k⟩
    | none => firstGridPoint lo val hi den closed (k - 1) fuel

/-- Drops the zeros at the end of the digits. -/
def Decimal.trimZeros (d : Decimal) : Nat → Decimal
  | 0 => d
  | fuel + 1 =>
    if d.digits ≠ 0 ∧ d.digits % 10 = 0 then
      Decimal.trimZeros ⟨d.digits / 10, d.exponent + 1⟩ fuel
    else d

/-- **The shortest decimal** that reads back as `mantissa · 2^exponent`. The numbers that do lie
between the midpoints to the two neighbours, which belong to the interval when the mantissa is
even; below a power of two the lower neighbour is nearer. -/
def shortest (mantissa : Nat) (exponent : Int) : Decimal :=
  if mantissa = 0 then ⟨0, 0⟩
  else
    let (num, den) := Binary64.magnitude mantissa exponent
    let (unit, _) := Binary64.magnitude 1 exponent
    let narrow := mantissa = Binary64.hiddenBit ∧ Binary64.minExponent < exponent
    let val := 4 * num
    let hi := val + 2 * unit
    let lo := val - (if narrow then unit else 2 * unit)
    let size : Int := ((Nat.toDigits 10 (num / den)).length : Int)
    let top : Int := if num / den = 0 then 0 else size
    (firstGridPoint lo val hi (4 * den) (mantissa % 2 == 0) top 360).trimZeros 20

/-- Zeros. -/
def zeros (n : Nat) : String := String.ofList (List.replicate n '0')

/-- The digits of a decimal before and behind the point. -/
def Decimal.parts (d : Decimal) : String × String :=
  let ds := Nat.toDigits 10 d.digits
  if 0 ≤ d.exponent then
    (String.ofList ds ++ zeros (if d.digits = 0 then 0 else d.exponent.natAbs), "")
  else
    let places := d.exponent.natAbs
    let padded := List.replicate (places + 1 - ds.length) '0' ++ ds
    (String.ofList (padded.take (padded.length - places)),
      String.ofList (padded.drop (padded.length - places)))

/-- The power of ten of the first digit. -/
def Decimal.leading (d : Decimal) : Int :=
  d.exponent + ((Nat.toDigits 10 d.digits).length : Int) - 1

/-- The sign of a number as text. -/
def signText (negative : Bool) : String := if negative then "-" else ""

/-- **The general text of a number**: its shortest decimal. From `10^16` on, and below `10^-4`
unless it is zero, it is written with an exponent; otherwise with a point and at least one place. -/
def Binary64.general : Binary64 → String
  | .nan => "NaN"
  | .infinite s => signText s ++ "inf"
  | .finite s m e =>
    let d := shortest m e
    if d.digits ≠ 0 ∧ (16 ≤ d.leading ∨ d.leading < -4) then
      match Nat.toDigits 10 d.digits with
      | first :: rest =>
        let tail := if rest.isEmpty then "" else "." ++ String.ofList rest
        signText s ++ String.ofList [first] ++ tail ++ "e" ++ toString d.leading
      | [] => ""
    else
      let (whole, places) := d.parts
      signText s ++ whole ++ "." ++ (if places.isEmpty then "0" else places)

/-- **The positional text of a number**: its shortest decimal without an exponent, and without a
point when it is an integer. -/
def Binary64.positional : Binary64 → String
  | .nan => "NaN"
  | .infinite s => signText s ++ "inf"
  | .finite s m e =>
    let (whole, places) := (shortest m e).parts
    signText s ++ whole ++ (if places.isEmpty then "" else "." ++ places)

/-- **The text of a number with a fixed number of places**, the exact value rounded to the nearest
and a half to the even digit. -/
def Binary64.fixed (places : Nat) : Binary64 → String
  | .nan => "NaN"
  | .infinite s => signText s ++ "inf"
  | .finite s m e =>
    let (num, den) := Binary64.magnitude m e
    let n := Binary64.roundDiv (num * Nat.pow 10 places) den
    let (whole, rest) := Decimal.parts ⟨n, -(places : Int)⟩
    signText s ++ whole ++ (if rest.isEmpty then "" else "." ++ rest)

end RtlFlow.Number
