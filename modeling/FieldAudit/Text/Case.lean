import FieldAudit.Text.Blank
import FieldAudit.Text.Table.Case

/-!
# Letter case

Lower-casing by the rules of Unicode. One character, the capital I with a dot, becomes two, and a
capital sigma at the end of a word becomes a final sigma.
-/

namespace FieldAudit.Text

/-- Whether a character is upper-case. -/
def isUpper (c : Char) : Bool := inRanges Table.upper c

/-- The lower-case form of a character that has one of a single character. -/
def lowerChar (c : Char) : Char :=
  if c.toNat < 128 then c.toLower
  else match Table.lowerRuns.find? fun r =>
      r.first ≤ c.toNat && c.toNat ≤ r.last && (c.toNat - r.first) % r.step == 0 with
    | some r => Char.ofNat (c.toNat + r.up - r.down)
    | none => c

/-- Whether a cased character comes first, when those that the case rules pass over are skipped. -/
def casedFirst (s : List Char) : Bool :=
  (s.dropWhile (inRanges Table.caseIgnorable)).head?.any (inRanges Table.cased)

/-- The lower-case form of a character between the text before it, nearest first, and after it. -/
def lowerBetween (before after : List Char) (c : Char) : List Char :=
  if c = 'Σ' then [if casedFirst before && !casedFirst after then 'ς' else 'σ']
  else if c = 'İ' then ['i', '\u0307']
  else [lowerChar c]

/-- Lower-cases the rest of a text, given what stands before it, nearest first. -/
def lowerFrom (before : List Char) : List Char → List Char
  | [] => []
  | c :: cs => lowerBetween before cs c ++ lowerFrom (c :: before) cs

/-- The lower-case form of a text. -/
def lower (s : List Char) : List Char := lowerFrom [] s

end FieldAudit.Text
