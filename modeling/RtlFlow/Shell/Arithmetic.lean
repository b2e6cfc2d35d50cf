import RtlFlow.Shell.Stream

/-! # Arithmetic of the command shell

Expressions over whole numbers: products before sums, sums before comparisons, these before
equalities, and then "and" and "or". A condition is one or zero. -/

namespace RtlFlow.Shell

/-- **Why an expression has no value.** -/
inductive ArithmeticError where
  /-- An operand is missing, or something stands behind the expression. -/
  | malformed
  /-- It divides by zero. -/
  | divisionByZero
  deriving DecidableEq, Repr, Inhabited

/-- The wording of an error. -/
def ArithmeticError.reason : ArithmeticError → String
  | .malformed => "expecting primary"
  | .divisionByZero => "division by zero"

/-- What an operator makes of its operands. -/
abbrev Operator := Int → Int → Except ArithmeticError Int

/-- An operator that needs a second operand other than zero. -/
def dividing (f : Int → Int → Int) : Operator := fun a b =>
  if b = 0 then .error .divisionByZero else .ok (f a b)

/-- The operators, those of a level together; a later level binds tighter. -/
def operatorLevels : List (List (String × Operator)) :=
  let ofBool (b : Bool) : Except ArithmeticError Int := .ok (if b then 1 else 0)
  [[("||", fun a b => ofBool (a ≠ 0 || b ≠ 0))],
    [("&&", fun a b => ofBool (a ≠ 0 && b ≠ 0))],
    [("|", fun a b => .ok (a.toNat ||| b.toNat : Nat))],
    [("^", fun a b => .ok (a.toNat ^^^ b.toNat : Nat))],
    [("&", fun a b => .ok (a.toNat &&& b.toNat : Nat))],
    [("==", fun a b => ofBool (a = b)), ("!=", fun a b => ofBool (a ≠ b))],
    [("<=", fun a b => ofBool (a ≤ b)), (">=", fun a b => ofBool (a ≥ b)),
      ("<", fun a b => ofBool (a < b)), (">", fun a b => ofBool (a > b))],
    [("<<", fun a b => .ok (a * (Nat.pow 2 b.toNat : Nat))), (">>", fun a b => .ok (a.fdiv (Nat.pow 2 b.toNat : Nat)))],
    [("+", fun a b => .ok (a + b)), ("-", fun a b => .ok (a - b))],
    [("*", fun a b => .ok (a * b)), ("/", dividing Int.tdiv), ("%", dividing Int.tmod)]]

/-- A text without blanks at its beginning. -/
def skipBlanks (cs : List Char) : List Char := cs.dropWhile fun c => c = ' ' || c = '\t' || c = '\n'

/-- The operator of a level that a text begins with, and the rest. A sign that begins a longer
operator is not taken. -/
def operatorAt? (level : List (String × Operator)) (cs : List Char) :
    Option (Operator × List Char) :=
  level.findSome? fun (sign, f) =>
    let n := sign.length
    if cs.take n = sign.toList then
      let next := cs.drop n
      let longer := n = 1 && (next.head? = some '=' ||
        ((sign = "<" || sign = ">" || sign = "|" || sign = "&") && next.head? = cs.head?))
      if longer then none else some (f, next)
    else none

mutual

/-- Reads an operand: a number, a variable, or an expression in parentheses or behind a sign. -/
def readOperand (value : String → Int) : Nat → List Char → Except ArithmeticError (Int × List Char)
  | 0, _ => .error .malformed
  | fuel + 1, cs =>
    match skipBlanks cs with
    | '(' :: rest => do
      let (v, rest) ← readLevel value fuel operatorLevels rest
      match skipBlanks rest with
      | ')' :: rest => return (v, rest)
      | _ => .error .malformed
    | '-' :: rest => (readOperand value fuel rest).map fun (v, rest) => (-v, rest)
    | '+' :: rest => readOperand value fuel rest
    | '!' :: rest =>
      (readOperand value fuel rest).map fun (v, rest) => (if v = 0 then 1 else 0, rest)
    | '$' :: rest => readOperand value fuel rest
    | c :: rest =>
      let run := (c :: rest).takeWhile fun c => c.isAlphanum || c = '_'
      let behind := (c :: rest).drop run.length
      if run.isEmpty then .error .malformed
      else if c.isDigit then
        match (String.ofList run).toNat? with
        | some n => .ok (n, behind)
        | none => .error .malformed
      else .ok (value (String.ofList run), behind)
    | [] => .error .malformed

/-- Reads an expression whose operators are those of some levels. -/
def readLevel (value : String → Int) :
    Nat → List (List (String × Operator)) → List Char → Except ArithmeticError (Int × List Char)
  | 0, _, _ => .error .malformed
  | fuel + 1, [], cs => readOperand value fuel cs
  | fuel + 1, level :: levels, cs => do
    let (v, rest) ← readLevel value fuel levels cs
    readMore value fuel level levels v rest

/-- Reads the operands behind the first one of a level, which is read already. -/
def readMore (value : String → Int) :
    Nat → List (String × Operator) → List (List (String × Operator)) → Int →
      List Char → Except ArithmeticError (Int × List Char)
  | 0, _, _, _, _ => .error .malformed
  | fuel + 1, level, levels, v, cs =>
    match operatorAt? level (skipBlanks cs) with
    | none => .ok (v, cs)
    | some (f, rest) => do
      let (w, rest) ← readLevel value fuel levels rest
      readMore value fuel level levels (← f v w) rest

end

/-- **The value of an expression.** -/
def evaluate (value : String → Int) (cs : List Char) : Except ArithmeticError Int :=
  if (skipBlanks cs).isEmpty then .ok 0
  else do
    let (v, rest) ← readLevel value (16 * (cs.length + 2)) operatorLevels cs
    if (skipBlanks rest).isEmpty then .ok v else .error .malformed

end RtlFlow.Shell
