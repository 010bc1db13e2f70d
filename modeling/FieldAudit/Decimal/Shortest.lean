/-!
# Shortest decimal text

A floating-point number is written with the fewest digits that read back as the same number, the
nearest ones of those, and never with an exponent.
-/

namespace FieldAudit.Decimal

/-- The positive number `mantissa · 2 ^ exponent` with the numbers that are read as it: those
    between the half-way points to its neighbours. -/
structure Binary where
  mantissa : Nat
  exponent : Int
  /-- The neighbour below is only half as far away as the one above. -/
  narrow : Bool
deriving DecidableEq, Inhabited

/-- The positive finite number of some bits, without their sign. -/
def Binary.ofBits (bits : Nat) : Binary :=
  let fraction : Nat := bits % Nat.pow 2 52
  let biased : Nat := bits / Nat.pow 2 52 % Nat.pow 2 11
  if biased = 0 then { mantissa := fraction, exponent := -1074, narrow := false }
  else
    { mantissa := Nat.pow 2 52 + fraction, exponent := (biased : Int) - 1075
      narrow := fraction == 0 && 1 < biased }

/-- Four times the number, and four times the two half-way points around it, all multiplied by
    `10 ^ places` and by the same power of two that makes them whole. The last one is that power. -/
def Binary.scaled (b : Binary) (places : Nat) : Nat × Nat × Nat × Nat :=
  let up := Nat.pow 10 places * Nat.pow 2 b.exponent.toNat
  let m := 4 * b.mantissa
  (m * up, (m - if b.narrow then 1 else 2) * up, (m + 2) * up, 4 * Nat.pow 2 (-b.exponent).toNat)

/-- The nearest multiple of `10 ^ drop` to the number times `10 ^ places`, in units of `10 ^ drop`,
    if it reads back as the number. Half-way points read back if the mantissa is even. -/
def Binary.rounded? (b : Binary) (places drop : Nat) : Option Nat :=
  let (value, low, high, unit) := b.scaled places
  let step := unit * Nat.pow 10 drop
  let below := value / step
  let fits (n : Nat) : Bool :=
    if b.mantissa % 2 = 0 then low ≤ n * step && n * step ≤ high
    else low < n * step && n * step < high
  let nearest := if 2 * (value % step) ≤ step then [below, below + 1] else [below + 1, below]
  nearest.find? fits

/-- The number of digits before the point: the least `k` with `b < 10 ^ k`, for numbers that are not
    below one. -/
def Binary.wholeDigits (b : Binary) : Nat :=
  (Nat.toDigits 10 (b.mantissa * Nat.pow 2 b.exponent.toNat / Nat.pow 2 (-b.exponent).toNat)).length

/-- Digits with a point before the last `places` of them, without zeros at the end of the fraction. -/
def positional (digits : List Char) (places : Nat) : String :=
  let padded := List.replicate (places + 1 - digits.length) '0' ++ digits
  let whole := padded.take (padded.length - places)
  let fraction := ((padded.drop (padded.length - places)).reverse.dropWhile (· == '0')).reverse
  .ofList (if fraction.isEmpty then whole else whole ++ '.' :: fraction)

/-- The shortest text of a positive finite number: first as many zeros as possible are left at the
    end of the whole part, then as few places as possible are taken. -/
def Binary.toText (b : Binary) : String :=
  let zeros := ((List.range b.wholeDigits).reverse.findSome? fun drop =>
    (b.rounded? 0 drop).map fun n => Nat.toDigits 10 n ++ List.replicate drop '0')
  match zeros with
  | some digits => positional digits 0
  | none =>
    let fraction := (List.range 1100).findSome? fun places =>
      (b.rounded? places 0).map fun n => positional (Nat.toDigits 10 n) places
    fraction.getD ""

/-- The shortest text of a number. -/
def shortest (x : Float) : String :=
  let bits := x.toBits.toNat
  let magnitude := bits % Nat.pow 2 63
  let sign := if bits = magnitude then "" else "-"
  if magnitude > 0x7ff0000000000000 then "NaN"
  else if magnitude = 0x7ff0000000000000 then sign ++ "inf"
  else if magnitude = 0 then sign ++ "0"
  else sign ++ (Binary.ofBits magnitude).toText

end FieldAudit.Decimal
