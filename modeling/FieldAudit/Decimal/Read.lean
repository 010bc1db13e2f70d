/-!
# Reading decimal numbers

A decimal number is a sign, digits with a point among them and a power of ten. It is read as the
nearest floating-point number.
-/

namespace FieldAudit.Decimal

/-- The number `mantissa · 10 ^ exponent`. -/
structure Scientific where
  mantissa : Nat
  exponent : Int
deriving DecidableEq, Inhabited

/-- The value of decimal digits. -/
def digitsValue (digits : List Char) : Nat := digits.foldl (fun n c => 10 * n + (c.toNat - 48)) 0

/-- The exponent that a text states: nothing, or a mark, a sign and digits. -/
def exponent? : List Char → Option Int
  | [] => some 0
  | mark :: rest =>
    let (negative, digits) := match rest with
      | '-' :: digits => (true, digits)
      | '+' :: digits => (false, digits)
      | digits => (false, digits)
    if (mark = 'e' ∨ mark = 'E') ∧ digits ≠ [] ∧ digits.all Char.isDigit then
      some (if negative then -digitsValue digits else digitsValue digits)
    else none

/-- Reads digits with a point among them and an exponent. -/
def scientific? (s : List Char) : Option Scientific :=
  let whole := s.takeWhile Char.isDigit
  let rest := s.dropWhile Char.isDigit
  let (fraction, tail) := match rest with
    | '.' :: rest => (rest.takeWhile Char.isDigit, rest.dropWhile Char.isDigit)
    | rest => ([], rest)
  if whole.isEmpty && fraction.isEmpty then none
  else (exponent? tail).map fun e =>
    { mantissa := digitsValue (whole ++ fraction), exponent := e - fraction.length }

/-- The nearest floating-point number. Numbers beyond the range are infinite or zero. -/
def Scientific.toFloat (n : Scientific) : Float :=
  let size : Int := (Nat.toDigits 10 n.mantissa).length + n.exponent
  if n.mantissa = 0 ∨ size < -330 then 0
  else if 310 < size then Float.ofBits 0x7ff0000000000000
  else Float.ofScientific n.mantissa (n.exponent < 0) n.exponent.natAbs

/-- Reads a number without a sign; infinity and the undefined number may be spelled in any case. -/
def unsigned? (s : List Char) : Option Float :=
  let word := String.ofList (s.map Char.toLower)
  if word = "inf" ∨ word = "infinity" then some (Float.ofBits 0x7ff0000000000000)
  else if word = "nan" then some (Float.ofBits 0x7ff8000000000000)
  else (scientific? s).map Scientific.toFloat

/-- Reads a number. -/
def read? (s : List Char) : Option Float :=
  match s with
  | '-' :: rest => (unsigned? rest).map Float.neg
  | '+' :: rest => unsigned? rest
  | rest => unsigned? rest

end FieldAudit.Decimal
