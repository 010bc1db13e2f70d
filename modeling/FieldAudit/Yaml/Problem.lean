/-!
# Problems of a text

Why a text is not a document: what is wrong, where, and what was being read there.
-/

namespace FieldAudit.Yaml

/-- A place in a text, line and column counted from zero. -/
structure Mark where
  line : Nat
  column : Nat
deriving DecidableEq, Inhabited

/-- A place behind a message, counted from one. The start of the text is left out. -/
def Mark.text (m : Mark) : String :=
  if m.line = 0 ∧ m.column = 0 then ""
  else " at line " ++ toString (m.line + 1) ++ " column " ++ toString (m.column + 1)

/-- What was being read. -/
inductive Activity where
  | token
  | simpleKey
  | directive
  | versionDirective
  | tagDirective
  /-- The handle in a tag directive, before its first sign and after it. -/
  | directiveHandle
  | directiveHandleEnd
  /-- The text in a tag directive. -/
  | directiveText
  | anchor
  | reference
  | tag
  | tagText
  | blockScalar
  | quotedScalar
  | escape
  | plainScalar
  | node
  | blockNode
  | flowNode
  | blockSeq
  | blockMap
  | flowSeq
  | flowMap
deriving DecidableEq, Inhabited

/-- The words for what was being read. -/
def Activity.text : Activity → String
  | token => "while scanning for the next token"
  | simpleKey => "while scanning a simple key"
  | directive => "while scanning a directive"
  | versionDirective => "while scanning a %YAML directive"
  | tagDirective => "while scanning a %TAG directive"
  | directiveHandle => "while scanning a tag directive"
  | directiveHandleEnd => "while parsing a tag directive"
  | directiveText => "while parsing a %TAG directive"
  | anchor => "while scanning an anchor"
  | reference => "while scanning an alias"
  | tag => "while scanning a tag"
  | tagText => "while parsing a tag"
  | blockScalar => "while scanning a block scalar"
  | quotedScalar => "while scanning a quoted scalar"
  | escape => "while parsing a quoted scalar"
  | plainScalar => "while scanning a plain scalar"
  | node => "while parsing a node"
  | blockNode => "while parsing a block node"
  | flowNode => "while parsing a flow node"
  | blockSeq => "while parsing a block collection"
  | blockMap => "while parsing a block mapping"
  | flowSeq => "while parsing a flow sequence"
  | flowMap => "while parsing a flow mapping"

/-- What is wrong. -/
inductive Fault where
  /-- A character that no text may hold, after some bytes. -/
  | control (offset : Nat)
  | strayCharacter
  | strayEntry
  | strayKey
  | strayValue
  | strayColon
  | noColon
  | noDirectiveName
  | badDirectiveName
  | unknownDirective
  | noVersion
  | noVersionPoint
  | longVersion
  | noBlank
  | noBlankOrBreak
  | noCommentOrBreak
  | noHandle
  | noTag
  | noAngle
  | badTagEscape
  | badFirstByte
  | badNextByte
  | noName
  | zeroIndentation
  | tabInBlock
  | tabInPlain
  | strayDocumentMark
  | endOfText
  | unknownEscape
  | noDigits
  | badCodePoint
  | secondVersion
  | unknownVersion
  | secondHandle
  | noDocumentStart
  | undefinedHandle
  | noContent
  | noEntry
  | noKey
  | noItemEnd
  | noPairEnd
  | unknownAnchor
deriving DecidableEq, Inhabited

/-- The words for what is wrong. -/
def Fault.text : Fault → String
  | control offset =>
    "control characters are not allowed"
      ++ if offset = 0 then "" else " at position " ++ toString offset
  | strayCharacter => "found character that cannot start any token"
  | strayEntry => "block sequence entries are not allowed in this context"
  | strayKey => "mapping keys are not allowed in this context"
  | strayValue => "mapping values are not allowed in this context"
  | strayColon => "found unexpected ':'"
  | noColon => "could not find expected ':'"
  | noDirectiveName => "could not find expected directive name"
  | badDirectiveName => "found unexpected non-alphabetical character"
  | unknownDirective => "found unknown directive name"
  | noVersion => "did not find expected version number"
  | noVersionPoint => "did not find expected digit or '.' character"
  | longVersion => "found extremely long version number"
  | noBlank => "did not find expected whitespace"
  | noBlankOrBreak => "did not find expected whitespace or line break"
  | noCommentOrBreak => "did not find expected comment or line break"
  | noHandle => "did not find expected '!'"
  | noTag => "did not find expected tag URI"
  | noAngle => "did not find the expected '>'"
  | badTagEscape => "did not find URI escaped octet"
  | badFirstByte => "found an incorrect leading UTF-8 octet"
  | badNextByte => "found an incorrect trailing UTF-8 octet"
  | noName => "did not find expected alphabetic or numeric character"
  | zeroIndentation => "found an indentation indicator equal to 0"
  | tabInBlock => "found a tab character where an indentation space is expected"
  | tabInPlain => "found a tab character that violates indentation"
  | strayDocumentMark => "found unexpected document indicator"
  | endOfText => "found unexpected end of stream"
  | unknownEscape => "found unknown escape character"
  | noDigits => "did not find expected hexdecimal number"
  | badCodePoint => "found invalid Unicode character escape code"
  | secondVersion => "found duplicate %YAML directive"
  | unknownVersion => "found incompatible YAML document"
  | secondHandle => "found duplicate %TAG directive"
  | noDocumentStart => "did not find expected <document start>"
  | undefinedHandle => "found undefined tag handle"
  | noContent => "did not find expected node content"
  | noEntry => "did not find expected '-' indicator"
  | noKey => "did not find expected key"
  | noItemEnd => "did not find expected ',' or ']'"
  | noPairEnd => "did not find expected ',' or '\x7d'"
  | unknownAnchor => "unknown anchor"

/-- What is wrong with a text, with the place where that showed, and what was being read with the
    place where that began. -/
structure Problem where
  fault : Fault
  mark : Mark
  activity : Option (Activity × Mark) := none
deriving DecidableEq, Inhabited

/-- A description in words. Where reading began is left out if the problem showed there. -/
def Problem.message (p : Problem) : String :=
  p.fault.text ++ p.mark.text ++ match p.activity with
    | none => ""
    | some (activity, start) =>
      ", " ++ activity.text ++ if start = p.mark then "" else start.text

end FieldAudit.Yaml
