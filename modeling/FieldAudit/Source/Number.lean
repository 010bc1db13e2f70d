/-!
# Numbers

The spellings of numbers: decimal, binary, octal and hexadecimal integers, decimal and hexadecimal
fractions, and either with a trailing `i`. A low line may stand between digits. Of the spellings
that a text begins with, the longest counts.
-/

namespace FieldAudit.Source.Number

/-- A form of spelling: the rests that may be left of a text after it. -/
abbrev Form := List Char → List (List Char)

/-- One character of a class. -/
def one (p : Char → Bool) : Form
  | [] => []
  | c :: cs => if p c then [cs] else []

/-- One form after another. -/
def andThen (a b : Form) : Form := fun s => (a s).flatMap b

/-- One of two forms. -/
def orElse (a b : Form) : Form := fun s => a s ++ b s

/-- A form that may be left out. -/
def optional (a : Form) : Form := fun s => s :: a s

/-- More digits, each possibly after a low line. -/
def moreDigits (p : Char → Bool) : Form
  | [] => []
  | c :: cs =>
    if p c then cs :: moreDigits p cs
    else if c = '_' then match cs with
      | d :: ds => if p d then ds :: moreDigits p ds else []
      | [] => []
    else []

/-- A row of digits. -/
def digits (p : Char → Bool) : Form := andThen (one p) (optional (moreDigits p))

/-- Whether a character is an octal digit. -/
def isOctal (c : Char) : Bool := '0' ≤ c && c ≤ '7'

/-- Whether a character is a hexadecimal digit. -/
def isHex (c : Char) : Bool := c.isDigit || ('a' ≤ c && c ≤ 'f') || ('A' ≤ c && c ≤ 'F')

/-- One of two characters. -/
def letter (a b : Char) : Form := one fun c => c == a || c == b

/-- A low line that may stand after a base mark. -/
def gap : Form := optional (letter '_' '_')

/-- A zero and a base mark. -/
def base (a b : Char) : Form := andThen (letter '0' '0') (letter a b)

/-- Integers. -/
def integer : Form :=
  orElse (andThen (base 'b' 'B') (andThen gap (digits fun c => c == '0' || c == '1'))) <|
  orElse (letter '0' '0') <|
  orElse (andThen (one fun c => '1' ≤ c && c ≤ '9') (optional (andThen gap (digits Char.isDigit)))) <|
  orElse (andThen (letter '0' '0')
    (andThen (optional (letter 'o' 'O')) (andThen gap (digits isOctal)))) <|
  andThen (base 'x' 'X') (andThen gap (digits isHex))

/-- An exponent after one of two marks. -/
def exponent (a b : Char) : Form :=
  andThen (letter a b) (andThen (optional (letter '+' '-')) (digits Char.isDigit))

/-- Digits, a point and perhaps more digits. -/
def pointed (p : Char → Bool) : Form :=
  andThen (digits p) (andThen (letter '.' '.') (optional (digits p)))

/-- A point and digits. -/
def fraction (p : Char → Bool) : Form := andThen (letter '.' '.') (digits p)

/-- Numbers with a fraction or an exponent. -/
def float : Form :=
  orElse (andThen (pointed Char.isDigit) (optional (exponent 'e' 'E'))) <|
  orElse (andThen (digits Char.isDigit) (exponent 'e' 'E')) <|
  orElse (andThen (fraction Char.isDigit) (optional (exponent 'e' 'E'))) <|
  andThen (base 'x' 'X') <| andThen
    (orElse (andThen gap (pointed isHex)) (orElse (andThen gap (digits isHex)) (fraction isHex)))
    (exponent 'p' 'P')

/-- Numbers. -/
def number : Form :=
  let real := orElse integer float
  orElse real (andThen (orElse (digits Char.isDigit) real) (letter 'i' 'i'))

/-- The length of the longest number that a text begins with. -/
def length? (s : List Char) : Option Nat :=
  match (number s).map List.length with
  | [] => none
  | rests => some (s.length - rests.foldl min s.length)

end FieldAudit.Source.Number
