import FieldAudit.Text.Case

/-!
# Similarity of names

Names are compared without regard to case: two names are related if one contains the other, and
their similarity falls with the number of single-character edits between them.
-/

namespace FieldAudit

namespace EditDistance

/-- The rest of a row of distances: `left` is the entry before, and `above` holds the entries of the
    row for one character less. -/
def extendRow (c : Char) (left : Nat) : List Char → List Nat → List Nat
  | d :: ds, diagonal :: up :: above =>
    let here := min (min (up + 1) (left + 1)) (diagonal + if c = d then 0 else 1)
    here :: extendRow c here ds (up :: above)
  | _, _ => []

/-- The row of distances to the beginnings of `target` after one more character. -/
def nextRow (target : List Char) (row : List Nat) (c : Char) : List Nat :=
  let first := row.headD 0 + 1
  first :: extendRow c first target row

/-- The distances from a text to all beginnings of another, the empty one first. -/
def lastRow (source target : List Char) : List Nat :=
  source.foldl (nextRow target) (List.range (target.length + 1))

end EditDistance

/-- The least number of insertions, deletions and substitutions of single characters that turn one
    text into another. -/
def editDistance (source target : List Char) : Nat :=
  (EditDistance.lastRow source target).getLastD 0

/-- The similarity of two names, `1` if they are equal up to case. -/
def similarity (a b : String) : Float :=
  let a := Text.lower a.toList
  let b := Text.lower b.toList
  let longest := max a.length b.length
  if longest = 0 then 1 else 1 - (editDistance a b).toFloat / longest.toFloat

/-- Whether one name contains the other, up to case. -/
def namesRelated (a b : String) : Bool :=
  let a := Text.lower a.toList
  let b := Text.lower b.toList
  Text.occursIn b a || Text.occursIn a b

end FieldAudit
