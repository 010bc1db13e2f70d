import FieldAudit.Decimal.Read
import FieldAudit.Decimal.Shortest
import FieldAudit.Settings.Basic
import FieldAudit.Yaml.Node

/-!
# Reading settings

Settings are written as a mapping. Keys that are not known are passed over; a known key may stand only
once, and its value has to be of the right kind.
-/

namespace FieldAudit

/-- What is wrong with a value. -/
inductive ValueFault where
  /-- The value is of another kind than the expected one. -/
  | kind (found expected : String)
  /-- The tag of a value promises what its text is not. -/
  | tagged (text expected : String)
  | unknownWord (word : String) (known : List String)
  | secondKey (key : String)

/-- The description of what is wrong with a value. -/
def ValueFault.message : ValueFault → String
  | kind found expected => "invalid type: " ++ found ++ ", expected " ++ expected
  | tagged text expected =>
    "invalid value: string " ++ Text.quoted text ++ ", expected " ++ expected
  | unknownWord word known =>
    "unknown variant `" ++ word ++ "`, expected one of "
      ++ String.intercalate ", " (known.map fun w => "`" ++ w ++ "`")
  | secondKey key => "duplicate field `" ++ key ++ "`"

/-- Why a text holds no settings. -/
inductive ReadError where
  | text (p : Yaml.Problem)
  | severalDocuments
  /-- A value with its place and the keys that lead to it. -/
  | value (path : String) (place : Yaml.Mark) (fault : ValueFault)

/-- The description of why there are no settings. -/
def ReadError.message : ReadError → String
  | text p => p.message
  | severalDocuments => "deserializing from YAML containing more than one document is not supported"
  | value path place fault =>
    (if path.isEmpty then "" else path ++ ": ") ++ fault.message ++ place.text

namespace Settings

/-- The truth value of a text. -/
def flagOf? (text : String) : Option Bool :=
  if ["true", "True", "TRUE"].contains text then some true
  else if ["false", "False", "FALSE"].contains text then some false
  else none

/-- The number of a text. Infinity and the undefined number are spelled with a point. -/
def numberOf? (text : String) : Option Float :=
  let unsigned := match text.toList with
    | '+' :: rest => rest
    | rest => rest
  if [".inf", ".Inf", ".INF"].contains (String.ofList unsigned) then Decimal.read? "inf".toList
  else if ["-.inf", "-.Inf", "-.INF"].contains text then Decimal.read? "-inf".toList
  else if [".nan", ".NaN", ".NAN"].contains text then Decimal.read? "nan".toList
  else if unsigned.length < text.length && (unsigned.head? == some '+' || unsigned.head? == some '-')
  then none
  else (Decimal.read? unsigned).filter Float.isFinite

/-- Whether a text is one of the words for nothing. -/
def isNull (text : String) : Bool := ["~", "null", "Null", "NULL"].contains text

/-- The value of digits in a base. -/
def digitsIn? (base : Nat) (digits : List Char) : Option Nat :=
  if digits.isEmpty then none
  else digits.foldlM (fun n c => ((Yaml.hexDigit? c).filter (· < base)).map (base * n + ·)) 0

/-- Whether digits begin with a zero that says nothing. -/
def isPadded (digits : List Char) : Bool :=
  digits.head? == some '0' && !digits.tail.isEmpty && digits.tail.all Char.isDigit

/-- A whole number without a sign, in base 16, 8, 2 or 10. -/
def magnitude? : List Char → Option Nat
  | '0' :: 'x' :: digits => digitsIn? 16 digits
  | '0' :: 'o' :: digits => digitsIn? 8 digits
  | '0' :: 'b' :: digits => digitsIn? 2 digits
  | digits => if isPadded digits then none else digitsIn? 10 digits

/-- A text as the description of a whole number of at most 128 bits. More than 64 bits are
    mentioned. -/
def integer? (text : String) : Option String :=
  let describe (sign : String) (short long : Nat) (kind : String) (n : Nat) : Option String :=
    let number := "integer `" ++ (if n = 0 then "" else sign) ++ toString n ++ "`"
    if n ≤ short then some number else if n ≤ long then some (number ++ " as " ++ kind) else none
  let positive := describe "" (Nat.pow 2 64 - 1) (Nat.pow 2 128 - 1) "u128"
  match text.toList with
  | '-' :: digits => (magnitude? digits).bind (describe "-" (Nat.pow 2 63) (Nat.pow 2 127) "i128")
  | '+' :: digits => (magnitude? digits).bind positive
  | digits => (magnitude? digits).bind positive

/-- A number with at least one decimal place. -/
def withPlaces (x : Float) : String :=
  let digits := Decimal.shortest x
  if x.isFinite && !digits.toList.contains '.' then digits ++ ".0" else digits

/-- The description of a truth value. -/
def describeFlag (b : Bool) : String := "boolean `" ++ (if b then "true" else "false") ++ "`"

/-- The description of a number. -/
def describeNumber (x : Float) : String := "floating point `" ++ withPlaces x ++ "`"

/-- The description of what a plain text stands for. -/
def describePlain (text : String) : String :=
  let digits := match text.toList with
    | '-' :: rest | '+' :: rest => rest
    | rest => rest
  let number := if isPadded digits then none else numberOf? text
  if text.isEmpty || isNull text then "unit value"
  else match flagOf? text, integer? text, number with
    | some b, _, _ => describeFlag b
    | _, some description, _ => description
    | _, _, some x => describeNumber x
    | _, _, _ => "string " ++ Text.quoted text

/-- What is wrong with a scalar of another kind than the expected one. A tag may promise a kind; the
    text then has to be of that kind. -/
def scalarFault (tag : Option String) (style : Yaml.Style) (text expected : String) : ValueFault :=
  let promised (kind : String) (description : Option String) : ValueFault :=
    match description with
    | some found => .kind found expected
    | none => .tagged text kind
  match tag with
  | some "tag:yaml.org,2002:bool" => promised "a boolean" ((flagOf? text).map describeFlag)
  | some "tag:yaml.org,2002:int" => promised "an integer" (integer? text)
  | some "tag:yaml.org,2002:float" => promised "a float" ((numberOf? text).map describeNumber)
  | some "tag:yaml.org,2002:null" => promised "null" (if isNull text then some "unit value" else none)
  | tag =>
    let free := tag.all fun t => Text.startsWith t.toList ['!']
    if free && style == .plain then .kind (describePlain text) expected
    else .kind ("string " ++ Text.quoted text) expected

/-- The error of a node that is of another kind than the expected one. -/
def mismatch (path expected : String) : Yaml.Node → ReadError
  | .scalar start tag style text => .value path start (scalarFault tag style text expected)
  | .seq start _ _ => .value path start (.kind "sequence" expected)
  | .map start _ _ => .value path start (.kind "map" expected)
  | .reference target => mismatch path expected target
  | .cut p => .text p

/-- A scalar whose text may stand for a value of a kind: a plain one, or a literal block with the tag
    of the kind. -/
def valueText? (tag : String) : Yaml.Node → Option String
  | .scalar _ _ .plain text => some text
  | .scalar _ (some t) .literal text => if t = tag then some text else none
  | .reference target => valueText? tag target
  | _ => none

/-- A truth value. -/
def flag (path : String) (n : Yaml.Node) : Except ReadError Bool :=
  match (valueText? "tag:yaml.org,2002:bool" n).bind flagOf? with
  | some b => .ok b
  | none => .error (mismatch path "a boolean" n)

/-- A number. -/
def number (path : String) (n : Yaml.Node) : Except ReadError Float :=
  match (valueText? "tag:yaml.org,2002:float" n).bind numberOf? with
  | some x => .ok x
  | none => .error (mismatch path "f64" n)

/-- Any scalar as a text. -/
def text (path expected : String) : Yaml.Node → Except ReadError String
  | .scalar _ _ _ text => .ok text
  | .reference target => text path expected target
  | n => .error (mismatch path expected n)

/-- The texts of some items, the first of which has a number. -/
def textsFrom (path : String) : Nat → List Yaml.Node → Except ReadError (List String)
  | _, [] => .ok []
  | i, n :: rest => do
    let first ← text (path ++ "[" ++ toString i ++ "]") "a string" n
    return first :: (← textsFrom path (i + 1) rest)

/-- A sequence of texts. An empty place is an empty sequence. -/
def texts (path : String) : Yaml.Node → Except ReadError (List String)
  | .seq _ _ items => textsFrom path 0 items
  | .scalar _ _ .plain "" => .ok []
  | .reference target => texts path target
  | n => .error (mismatch path "a sequence" n)

/-- Whether a scalar stands for nothing. -/
def isNothing : Yaml.Node → Bool
  | .scalar _ _ style text => text.isEmpty || (style == .plain && isNull text)
  | _ => false

/-- The name in a tag that begins with `!`. -/
def tagName? (tag : Option String) : Option String :=
  match tag.map String.toList with
  | some ['!'] => some "!"
  | some ('!' :: name) => some (.ofList name)
  | _ => none

/-- A kind of value that is one of some words. -/
structure Words (α : Type) where
  all : List α
  name : α → String

/-- The value of a word. -/
def Words.find? {α : Type} (w : Words α) (word : String) : Option α := w.all.find? (w.name · = word)

/-- What is wrong with a word that has no value. -/
def Words.fault {α : Type} (w : Words α) (word : String) : ValueFault :=
  .unknownWord word (w.all.map w.name)

/-- One of some words, as a text or as the tag of nothing. An unknown tag is an error of the whole
    mapping, which starts at `whole`. -/
def choice {α : Type} (w : Words α) (whole : Yaml.Mark) (path : String) :
    Yaml.Node → Except ReadError α
  | .reference target => choice w whole path target
  | .cut p => .error (.text p)
  | n@(.scalar start tag _ text) => match tagName? tag with
    | some name => tagged n name
    | none => match w.find? text with
      | some a => .ok a
      | none => .error (.value path start (w.fault text))
  | n@(.seq start tag _) => match tagName? tag with
    | some name => tagged n name
    | none => .error (.value path start (.kind "sequence" "a YAML tag starting with '!'"))
  | n@(.map start tag _) => match tagName? tag with
    | some name => tagged n name
    | none => .error (.value path start (.kind "map" "a YAML tag starting with '!'"))
where
  /-- The value of the name of a tag at a node, which has to stand for nothing. -/
  tagged (n : Yaml.Node) (name : String) : Except ReadError α :=
    match w.find? name with
    | none => .error (.value "" whole (w.fault name))
    | some a => if isNothing n then .ok a else .error (mismatch path "unit" n)

/-- The words for the treatment of fields that no text can hold. -/
def treatments : Words NonSerializable := ⟨NonSerializable.all, NonSerializable.name⟩

/-- The words for formats. -/
def formats : Words Format := ⟨Format.all, Format.name⟩

/-- The settings with the value of one key, or nothing if the key is not known. `path` describes where
    the value stands. -/
def set? (s : Settings) (whole : Yaml.Mark) (path key : String) (n : Yaml.Node) :
    Option (Except ReadError Settings) :=
  let flag (put : Bool → Settings) : Option (Except ReadError Settings) := some ((flag path n).map put)
  let texts (put : List String → Settings) : Option (Except ReadError Settings) :=
    some ((texts path n).map put)
  match key with
  | "include_member_functions" => flag fun b => { s with includeMemberFunctions := b }
  | "allow_getter_fallback" => flag fun b => { s with allowGetterFallback := b }
  | "allow_aggregating_converters" => flag fun b => { s with allowAggregating := b }
  | "exclude_field_patterns" => texts fun l => { s with excludeFields := l }
  | "exclude_converter_patterns" => texts fun l => { s with excludeConverters := l }
  | "exclude_file_patterns" => texts fun l => { s with excludeFiles := l }
  | "min_name_similarity" => some ((number path n).map fun x => { s with minSimilarity := x })
  | "ignore_field_tags" => texts fun l => { s with ignoreTags := l }
  | "include_generated_files" => flag fun b => { s with includeGenerated := b }
  | "ignore_deprecated_fields" => flag fun b => { s with ignoreDeprecated := b }
  | "include_private_fields" => flag fun b => { s with includePrivate := b }
  | "non_serializable_fields" =>
    some ((choice treatments whole path n).map fun t => { s with nonSerializable := t })
  | "output_format" => some ((choice formats whole path n).map fun f => { s with format := f })
  | _ => none

/-- How the value of a key is described: by the key, if it is written out. -/
def keyPath : Yaml.Node → String
  | .scalar _ _ _ text => text
  | _ => "?"

/-- The settings with the values of some entries of a mapping that starts at `whole`, none of which
    has a key that is known and used. -/
def setAll (s : Settings) (whole : Yaml.Mark) (used : List String) :
    List (Yaml.Node × Yaml.Node) → Except ReadError Settings
  | [] => .ok s
  | (key, value) :: rest => do
    let name ← text "" "field identifier" key
    match s.set? whole (keyPath key) name value with
    | none => setAll s whole used rest
    | some next =>
      if used.contains name then throw (.value "" whole (.secondKey name))
      setAll (← next) whole (name :: used) rest

/-- The settings of the tree of a document. -/
def ofNode : Yaml.Node → Except ReadError Settings
  | .map start _ entries => setAll {} start [] entries
  | .scalar _ _ .plain "" => .ok {}
  | .reference target => ofNode target
  | n => .error (mismatch "" "struct Config" n)

/-- The settings of the only document of a text. No document has the default ones. -/
def ofDocument (d : Yaml.Document) : Except ReadError Settings := do
  let settings ← (d.root.map ofNode).getD (.ok {})
  match d.rest with
  | .nothing => return settings
  | .problem p => throw (.text p)
  | .more => throw .severalDocuments

/-- Reads settings. A text of blanks has the default ones. -/
def read (text : List Char) : Except ReadError Settings :=
  if text.all Text.isBlank then .ok {} else ofDocument (Yaml.document text)

end Settings

end FieldAudit
