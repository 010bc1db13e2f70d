import FieldAudit.Glob.Basic

/-!
# Reading globs

A glob is read character by character. `\` takes the next character literally, `[` opens a class and
`{` a choice, which may nest. Two stars mean more than one only where they are a whole component.
-/

namespace FieldAudit.Glob

/-- Why a text is not a glob. -/
inductive Error where
  | unclosedClass
  | invalidRange (first last : Char)
  | unopenedChoice
  | unclosedChoice
  | danglingEscape
deriving DecidableEq, Inhabited

/-- The description of an error. -/
def Error.message : Error → String
  | .unclosedClass => "unclosed character class; missing ']'"
  | .invalidRange first last =>
    "invalid range; '" ++ first.toString ++ "' > '" ++ last.toString ++ "'"
  | .unopenedChoice =>
    "unopened alternate group; missing '\x7b' (maybe escape '\x7d' with '[\x7d]'?)"
  | .unclosedChoice =>
    "unclosed alternate group; missing '\x7d' (maybe escape '\x7b' with '[\x7b]'?)"
  | .danglingEscape => "dangling '\\'"

/-- A class being read. -/
structure ClassState where
  negated : Bool := false
  /-- Nothing was read after the opening bracket. -/
  atStart : Bool := true
  /-- No member was read yet. -/
  first : Bool := true
  /-- A hyphen was read that may belong to a range. -/
  inRange : Bool := false
  /-- The ranges read so far, last one first. -/
  ranges : List (Char × Char) := []

/-- What the characters read so far ask of the next one. -/
inductive Mode where
  | plain
  | escaped
  /-- After one star, with the character before it. -/
  | star (before : Option Char)
  /-- After two stars, with the character before them. -/
  | stars (before : Option Char)
  | inClass (state : ClassState)

/-- A glob being read. -/
structure State where
  mode : Mode := .plain
  /-- The character read last. -/
  last : Option Char := none
  /-- The pieces of the current branch, last one first. -/
  current : List Piece := []
  /-- The open choices, innermost first: the pieces around each and its finished branches, in both
      cases last one first. -/
  opened : List (List Piece × List (List Piece)) := []

namespace State

/-- Adds a piece to the current branch. -/
def push (s : State) (p : Piece) : State := { s with current := p :: s.current }

/-- Adds the bytes of a character to the current branch. -/
def pushChar (s : State) (c : Char) : State :=
  c.toString.toUTF8.toList.foldl (fun s b => s.push (.byte b)) s

/-- Two stars that are not a component mean the same as one. -/
def pushRuns (s : State) : State := (s.push .run).push .run

/-- Takes the slash, or whatever stands before the two stars, into a piece for many components. -/
def replaceLast (s : State) (p : Piece) : State :=
  match s.current with
  | .leading :: _ => s
  | .trailing :: _ => s
  | _ :: rest => { s with current := p :: rest }
  | [] => { s with current := [p] }

end State

/-- A byte range for each member of a class; a range of characters of more than one byte falls apart
    into the bytes of its ends. -/
def byteRanges (r : Char × Char) : List (UInt8 × UInt8) :=
  let single (b : UInt8) := (b, b)
  if r.1 = r.2 then r.1.toString.toUTF8.toList.map single
  else
    match r.1.toString.toUTF8.toList.reverse, r.2.toString.toUTF8.toList with
    | low :: before, high :: after =>
      before.reverse.map single ++ [(low, high)] ++ after.map single
    | _, _ => []

/-- Ends the range begun by the last member of a class. -/
def ClassState.closeRange (s : ClassState) (c : Char) : Except Error ClassState :=
  match s.ranges with
  | (first, _) :: rest =>
    if c < first then .error (.invalidRange first c)
    else .ok { s with ranges := (first, c) :: rest, inRange := false, first := false }
  | [] => .ok { s with ranges := [(c, c)], inRange := false, first := false }

/-- Adds a member to a class. -/
def ClassState.add (s : ClassState) (c : Char) : ClassState :=
  { s with ranges := (c, c) :: s.ranges, inRange := false, first := false }

/-- The piece for a class that was read to its end. -/
def ClassState.piece (s : ClassState) : Piece :=
  let ranges := if s.inRange then ('-', '-') :: s.ranges else s.ranges
  .oneOf s.negated (ranges.reverse.flatMap byteRanges)

/-- Reads one character of a class. -/
def classStep (s : State) (cls : ClassState) (c : Char) : Except Error State :=
  if cls.atStart && (c == '!' || c == '^') then
    .ok { s with mode := .inClass { cls with negated := true, atStart := false } }
  else
    let cls := { cls with atStart := false }
    if c == ']' && !cls.first then
      .ok { s.push cls.piece with mode := .plain }
    else if c == '-' && !cls.first && !cls.inRange then
      .ok { s with mode := .inClass { cls with inRange := true } }
    else if cls.inRange then do
      let cls ← cls.closeRange c
      return { s with mode := .inClass cls }
    else .ok { s with mode := .inClass (cls.add c) }

/-- Reads one character outside of classes and not after a star. -/
def plainStep (s : State) (c : Char) : Except Error State :=
  match c with
  | '?' => .ok (s.push .one)
  | '*' => .ok { s with mode := .star s.last }
  | '[' => .ok { s with mode := .inClass {} }
  | '\x7b' => .ok { s with current := [], opened := (s.current, []) :: s.opened }
  | '\x7d' => match s.opened with
    | [] => .error .unopenedChoice
    | (around, branches) :: opened =>
      .ok { s with current := .choice (s.current.reverse :: branches).reverse :: around, opened }
  | ',' => match s.opened with
    | [] => .ok (s.pushChar c)
    | (around, branches) :: opened =>
      .ok { s with current := [], opened := (around, s.current.reverse :: branches) :: opened }
  | '\\' => .ok { s with mode := .escaped }
  | c => .ok (s.pushChar c)

/-- Settles two stars by what follows them, `none` for the end. The flag tells whether the following
    character was taken in. -/
def settleStars (s : State) (before next : Option Char) : State × Bool :=
  if s.current.isEmpty then
    match next with
    | none => (s.push .leading, false)
    | some '/' => (s.push .leading, true)
    | some _ => (s.pushRuns, false)
  else if before != some '/' && (s.opened.isEmpty || (before != some ',' && before != some '\x7b'))
  then (s.pushRuns, false)
  else
    match next with
    | none => (s.replaceLast .trailing, false)
    | some '/' => (s.replaceLast .inner, true)
    | some c =>
      if (c == ',' || c == '\x7d') && !s.opened.isEmpty then (s.replaceLast .trailing, false)
      else (s.pushRuns, false)

/-- Reads one character. -/
def step (s : State) (c : Char) : Except Error State := do
  let s ← match s.mode with
    | .plain => plainStep s c
    | .escaped => pure { s.pushChar c with mode := .plain }
    | .inClass cls => classStep s cls c
    | .star before =>
      if c = '*' then pure { s with mode := .stars before }
      else plainStep { s.push .run with mode := .plain } c
    | .stars before =>
      let (s, taken) := settleStars { s with mode := .plain } before (some c)
      if taken then pure s else plainStep s c
  return { s with last := some c }

/-- Settles what is left open at the end. -/
def finish (s : State) : Except Error Glob := do
  let s ← match s.mode with
    | .plain => pure s
    | .escaped => throw .danglingEscape
    | .inClass _ => throw .unclosedClass
    | .star _ => pure (s.push .run)
    | .stars before => pure (settleStars s before none).1
  if s.opened.isEmpty then return ⟨s.current.reverse⟩ else throw .unclosedChoice

/-- Reads a glob. -/
def parse (text : String) : Except Error Glob := text.toList.foldlM step {} >>= finish

end FieldAudit.Glob
