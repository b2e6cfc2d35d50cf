import RtlFlow.Number.Reading

/-! # JSON values

A JSON value as data. Numbers are kept as they are written, so that one text can be read as a
whole number, as a signed one or as a floating point number by whoever needs it. Objects keep
their members in order, repeated names included. A document may hold strings that are no text;
they have a value of their own, which nobody can use and everybody can pass over. -/

namespace RtlFlow

open RtlFlow.Number

/-- **A numeral as written**: sign, digits, digits behind the point and exponent. -/
structure Numeral where
  /-- The numeral begins with a minus sign. -/
  negative : Bool
  /-- The digits before the point. -/
  whole : List Char
  /-- The digits behind the point, where there is one. -/
  places : Option (List Char)
  /-- The sign and digits of the exponent, where there is one. -/
  exponent : Option (Bool × List Char)
  deriving DecidableEq, Repr, Inhabited

/-- **A JSON value.** -/
inductive Json where
  /-- The value `null`. -/
  | null
  /-- A truth value. -/
  | bool (b : Bool)
  /-- A number. -/
  | number (n : Numeral)
  /-- A string. -/
  | text (s : String)
  /-- A list. -/
  | list (items : List Json)
  /-- An object with its members in order. -/
  | object (members : List (String × Json))
  /-- A string that writes no text, or an object one of whose names writes none. It can be passed
  over, but nothing can be taken from it. -/
  | garbled
  deriving Repr, Inhabited

namespace Numeral

/-- The numeral of a natural number. -/
def ofNat (n : Nat) : Numeral := ⟨false, Nat.toDigits 10 n, none, none⟩

/-- The numeral of an integer. -/
def ofInt (n : Int) : Numeral := ⟨n < 0, Nat.toDigits 10 n.natAbs, none, none⟩

/-- The numeral is written without a point and without an exponent. -/
def isWhole (n : Numeral) : Bool := n.places.isNone && n.exponent.isNone

/-- The greatest number of 64 bits without a sign. -/
def maxUnsigned : Nat := 18446744073709551615

/-- The text of a numeral. -/
def render (n : Numeral) : String :=
  let places := match n.places with | some ds => '.' :: ds | none => []
  let exponent :=
    match n.exponent with
    | some (negative, ds) => 'e' :: (if negative then '-' :: ds else ds)
    | none => []
  String.ofList ((if n.negative then ['-'] else []) ++ n.whole ++ places ++ exponent)

/-- **The natural number of at most 64 bits** that the numeral writes. A minus sign makes it no
natural number, even before a zero. -/
def toNat? (n : Numeral) : Option Nat :=
  if n.isWhole && !n.negative then
    let v := digitsValue n.whole
    if v ≤ maxUnsigned then some v else none
  else none

/-- **The signed 64-bit integer** that the numeral writes. Minus zero is no integer. -/
def toInt? (n : Numeral) : Option Int :=
  if n.isWhole then
    let v := digitsValue n.whole
    if n.negative then if v = 0 ∨ 9223372036854775808 < v then none else some (-(v : Int))
    else if v < 9223372036854775808 then some (v : Int) else none
  else none

/-- **The floating point number** nearest to the number that the numeral writes. A numeral beyond
the range gives nothing. -/
def toBinary64? (n : Numeral) : Option Binary64 :=
  let places := n.places.getD []
  let power : Int :=
    match n.exponent with
    | some (negative, ds) => if negative then -(digitsValue ds : Int) else digitsValue ds
    | none => 0
  match Binary64.ofDecimal n.negative (digitsValue (n.whole ++ places)) (power - places.length) with
  | .infinite _ => none
  | x => some x

end Numeral

namespace Json

/-- A natural number as a value. -/
def nat (n : Nat) : Json := .number (.ofNat n)

/-- An integer as a value. -/
def int (n : Int) : Json := .number (.ofInt n)

/-- A value that may be absent, with `null` for none. -/
def ofOption (v : Option Json) : Json := v.getD .null

/-- The last member of an object with a name. -/
def member? (j : Json) (name : String) : Option Json :=
  match j with
  | .object members => (members.reverse.find? fun (k, _) => k == name).map (·.2)
  | _ => none

/-- The string that a value is. -/
def text? : Json → Option String
  | .text s => some s
  | _ => none

/-- The truth value that a value is. -/
def bool? : Json → Option Bool
  | .bool b => some b
  | _ => none

/-- The items of a list. -/
def items? : Json → Option (List Json)
  | .list items => some items
  | _ => none

/-- The members of an object. -/
def members? : Json → Option (List (String × Json))
  | .object members => some members
  | _ => none

/-- The natural number that a value is. -/
def nat? : Json → Option Nat
  | .number n => n.toNat?
  | _ => none

/-- The integer that a value is. -/
def int? : Json → Option Int
  | .number n => n.toInt?
  | _ => none

end Json

end RtlFlow
