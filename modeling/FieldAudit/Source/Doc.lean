import FieldAudit.Source.Token

/-!
# Doc comments

Comments and declarations in the order of the file, and which comments document which declaration.
Both are told by rows alone: a doc comment ends on the row above its declaration.
-/

namespace FieldAudit.Source

/-- Drops the markers `/*` at the start of a text. Read backwards it drops the markers `*/` at the
    end. -/
def dropMarkers : List Char → List Char
  | '/' :: '*' :: rest => dropMarkers rest
  | s => s

/-- A line of a block comment without blanks and leading stars. -/
def bareLine (line : List Char) : List Char :=
  Text.trim (Text.trimStartBy (· == '*') (Text.trim line))

/-- The lines of a comment without its markers. -/
def Comment.lines (c : Comment) : List String :=
  match Text.afterStart? ['/', '/'] c.text.toList with
  | some line => [.ofList (Text.trim line)]
  | none =>
    let inside := (dropMarkers (dropMarkers c.text.toList).reverse).reverse
    (Text.lines inside).map fun line => .ofList (bareLine line)

/-- A comment, or a node `δ` with its first and last row. -/
inductive Item (δ : Type) where
  | comment (c : Comment)
  | node (startRow endRow : Nat) (content : δ)

/-- The comments that may document what follows, after one more: a blank row cuts off those before. -/
def gather (doc : List Comment) (c : Comment) : List Comment :=
  if doc.getLast?.all fun last => c.startRow ≤ last.endRow + 1 then doc ++ [c] else [c]

/-- Whether the last of the gathered comments ends on the row above a given one. -/
def endsAbove (doc : List Comment) (row : Nat) : Bool := doc.getLast?.any (·.endRow + 1 == row)

/-- The nodes with the lines of their doc comments, after some gathered comments. -/
def documentFrom {δ : Type} (doc : List Comment) : List (Item δ) → List (δ × List String)
  | [] => []
  | .comment c :: rest => documentFrom (gather doc c) rest
  | .node start _ content :: rest =>
    (content, if endsAbove doc start then doc.flatMap Comment.lines else []) :: documentFrom [] rest

/-- The nodes with the lines of their doc comments. -/
def document {δ : Type} (items : List (Item δ)) : List (δ × List String) := documentFrom [] items

/-- Whether a comment has a line that marks a deprecation. -/
def Comment.deprecates (c : Comment) : Bool :=
  c.lines.any fun line => Text.startsWith line.toList "Deprecated:".toList

/-- The nodes, each with the mark whether the comments above it deprecate it. A comment on the row
    where the node before ends belongs to that node. -/
def deprecationsFrom {δ : Type} (lastRow : Nat) (doc : List Comment) :
    List (Item δ) → List (δ × Bool)
  | [] => []
  | .comment c :: rest =>
    deprecationsFrom lastRow (if lastRow < c.startRow then doc ++ [c] else doc) rest
  | .node start stop content :: rest =>
    (content, endsAbove doc start && doc.any Comment.deprecates) :: deprecationsFrom stop [] rest

/-- The nodes inside of braces opened on a row, each with the mark whether it is deprecated. -/
def deprecations {δ : Type} (openRow : Nat) (items : List (Item δ)) : List (δ × Bool) :=
  deprecationsFrom openRow [] items

end FieldAudit.Source
