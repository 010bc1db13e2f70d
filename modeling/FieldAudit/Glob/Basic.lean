/-!
# Globs

A glob is a list of pieces that together match a whole text, byte by byte. `?` and `*` stay within
one component of a path, and a component `**` stands for any number of components. Matching is done
in continuation style: a piece accepts a text if the rest of the glob accepts what it leaves over.
-/

namespace FieldAudit

namespace Glob

/-- The byte that divides the components of a path. -/
def slash : UInt8 := 0x2f

/-- A piece of a glob. -/
inductive Piece where
  | byte (b : UInt8)
  /-- `?`: one byte within a component. -/
  | one
  /-- `*`: any number of bytes within a component. -/
  | run
  /-- `**/` at the start: nothing, or any text up to a slash. -/
  | leading
  /-- `/**` at the end: a slash and any text. -/
  | trailing
  /-- `/**/` in between: a slash, or any text between two slashes. -/
  | inner
  /-- `[...]`: one byte inside, or outside, of the ranges. -/
  | oneOf (negated : Bool) (ranges : List (UInt8 × UInt8))
  /-- `{...,...}`: one of the branches. -/
  | choice (branches : List (List Piece))

/-- What may be left of a text after any number of bytes within a component. -/
def afterRun : List UInt8 → List (List UInt8)
  | [] => [[]]
  | b :: bs => (b :: bs) :: if b = slash then [] else afterRun bs

/-- What may be left of a text after any number of bytes. -/
def afterAny : List UInt8 → List (List UInt8)
  | [] => [[]]
  | b :: bs => (b :: bs) :: afterAny bs

/-- What may be left of a text after a slash and any bytes before it. -/
def afterSlash : List UInt8 → List (List UInt8)
  | [] => []
  | b :: bs => if b = slash then bs :: afterSlash bs else afterSlash bs

/-- Whether a byte lies in one of the ranges, ends included. -/
def inRanges (ranges : List (UInt8 × UInt8)) (b : UInt8) : Bool :=
  ranges.any fun r => r.1 ≤ b && b ≤ r.2

mutual

/-- Whether a piece matches nothing but the empty text for want of content. -/
def Piece.isVoid : Piece → Bool
  | .choice branches => allVoid branches
  | _ => false

/-- Whether all pieces are void. -/
def isVoid : List Piece → Bool
  | [] => true
  | p :: ps => p.isVoid && isVoid ps

/-- Whether all branches are void. -/
def allVoid : List (List Piece) → Bool
  | [] => true
  | b :: bs => isVoid b && allVoid bs

end

mutual

/-- Whether a piece matches a beginning of a text whose rest is accepted by `k`. Void branches of a
    choice are left out; a choice without any other branch matches the empty text. -/
def Piece.accepts (k : List UInt8 → Bool) (s : List UInt8) : Piece → Bool
  | .byte b => match s with
    | c :: t => c == b && k t
    | [] => false
  | .one => match s with
    | c :: t => c != slash && k t
    | [] => false
  | .run => (afterRun s).any k
  | .leading => k s || (afterSlash s).any k
  | .trailing => match s with
    | c :: t => c == slash && (afterAny t).any k
    | [] => false
  | .inner => match s with
    | c :: t => c == slash && (k t || (afterSlash t).any k)
    | [] => false
  | .oneOf negated ranges => match s with
    | c :: t => (inRanges ranges c != negated) && k t
    | [] => false
  | .choice branches => if allVoid branches then k s else acceptsAny k s branches

/-- Whether some pieces in a row match a beginning of a text whose rest is accepted by `k`. -/
def accepts (k : List UInt8 → Bool) (s : List UInt8) : List Piece → Bool
  | [] => k s
  | p :: ps => p.accepts (fun t => accepts k t ps) s

/-- Whether a branch that is not void matches a beginning of a text whose rest is accepted by `k`. -/
def acceptsAny (k : List UInt8 → Bool) (s : List UInt8) : List (List Piece) → Bool
  | [] => false
  | b :: bs => (!isVoid b && accepts k s b) || acceptsAny k s bs

end

end Glob

/-- A glob: pieces that together match a whole text. -/
structure Glob where
  pieces : List Glob.Piece

/-- Whether a glob matches a text. A lone `**` matches everything. -/
def Glob.isMatch (g : Glob) (s : List UInt8) : Bool :=
  match g.pieces with
  | [.leading] => true
  | pieces => Glob.accepts List.isEmpty s pieces

end FieldAudit
