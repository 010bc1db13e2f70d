import FieldAudit.Yaml.Token

/-!
# Nodes of a document

A document is a tree of scalars, sequences and mappings. An alias stands for the node with its anchor.
Where the text has a problem the tree is cut: all that comes after that place is the problem.
-/

namespace FieldAudit.Yaml

/-- A node with the place where it starts. -/
inductive Node where
  | scalar (start : Mark) (tag : Option String) (style : Style) (text : String)
  | seq (start : Mark) (tag : Option String) (items : List Node)
  | map (start : Mark) (tag : Option String) (entries : List (Node × Node))
  /-- An alias for another node. One that the alias is itself a part of has no content. -/
  | reference (target : Node)
  | cut (p : Problem)
deriving Inhabited

/-- The node of an empty place. -/
def Node.empty (start : Mark) : Node := .scalar start none .plain ""

/-- A node that was given a name. -/
structure Anchored where
  /-- The number of the name. -/
  number : Nat
  /-- The number of nodes that were given a name before. -/
  order : Nat
  node : Node

/-- The remaining tokens, the nodes with an anchor and the meanings of tag handles. -/
structure Context where
  tokens : List Token
  /-- The names of anchors with their numbers. -/
  names : List (String × Nat) := []
  /-- The nodes with an anchor, the last one first. -/
  anchored : List Anchored := []
  handles : List (String × String) := []

/-- A reader of nodes. -/
abbrev NodeReader := StateM Context

namespace NodeReader

/-- The next token, which stays. -/
def peek : NodeReader Token := do return (← get).tokens.headD default

/-- Takes the next token. -/
def take : NodeReader Token := do
  let c ← get
  set { c with tokens := c.tokens.tail }
  return c.tokens.headD default

/-- Gives up: the problem takes the place of all remaining tokens. -/
def giveUp (p : Problem) : NodeReader Node := do
  modify fun c => { c with tokens := [p.token] }
  return .cut p

/-- Gives a node the name of an anchor. A name has the number of different names before it, so that a
    name that is given again shares its number with the next new one; a number stands for the last
    node that got it. The result is for `complete`. -/
def begin (anchor : Option String) (n : Node) : NodeReader (Option Nat) := do
  match anchor with
  | none => return none
  | some name =>
    let c ← get
    let number := c.names.length
    let order := c.anchored.length
    set { c with
      names := (name, number) :: c.names.filter (·.1 ≠ name)
      anchored := { number, order, node := n } :: c.anchored }
    return some order

/-- Puts a complete node in the place of what was given a name. -/
def complete (order : Option Nat) (n : Node) : NodeReader Node := do
  let put (a : Anchored) : Anchored := if order = some a.order then { a with node := n } else a
  modify fun c => { c with anchored := c.anchored.map put }
  return n

/-- The node that an alias stands for. -/
def target? (name : String) : NodeReader (Option Node) := do
  let c ← get
  return (c.names.lookup name).bind fun number =>
    (c.anchored.find? (·.number = number)).map Anchored.node

/-- The anchor and the tag of a node, with the place of the tag. -/
structure Properties where
  anchor : Option String := none
  tag : Option (String × String × Mark) := none

/-- Reads an anchor and a tag, in any order, each at most once. -/
def properties : NodeReader Properties := do
  let anchor? : NodeReader (Option String) := do
    match (← peek).kind with
    | .anchor name => let _ ← take; return some name
    | _ => return none
  let tag? : NodeReader (Option (String × String × Mark)) := do
    match ← peek with
    | ⟨.tag handle suffix, start, _⟩ => let _ ← take; return some (handle, suffix, start)
    | _ => return none
  let anchor ← anchor?
  let tag ← tag?
  let anchor ← if anchor.isNone then anchor? else pure anchor
  return { anchor, tag }

/-- The whole text of a tag, if its handle has a meaning. -/
def tagText? (handle suffix : String) : NodeReader (Option String) := do
  if handle.isEmpty then return some suffix
  return ((← get).handles.lookup handle).map (· ++ suffix)

end NodeReader

open NodeReader

/-- What may stand where a node is expected. -/
structure Position where
  /-- Blocks may begin here. -/
  block : Bool
  /-- The items of a sequence may stand here without a block of their own. -/
  bare : Bool := false

mutual

/-- Reads a node of at most `n` nested steps. -/
def readNode : Nat → Position → NodeReader Node
  | 0, _ => return default
  | n + 1, position => do
    let first ← peek
    match first.kind with
    | .broken p => return .cut p
    | .reference name =>
      let _ ← take
      match ← target? name with
      | some node => return .reference node
      | none => giveUp { fault := .unknownAnchor, mark := first.start }
    | _ =>
      let found ← properties
      if let .broken p := (← peek).kind then return .cut p
      match found.tag with
      | none => readContent n position first.start found.anchor none
      | some (handle, suffix, mark) => match ← tagText? handle suffix with
        | some tag => readContent n position first.start found.anchor (some tag)
        | none => giveUp { fault := .undefinedHandle, mark, activity := some (.node, first.start) }

/-- Reads a node after its properties. The tag `!` of a scalar says nothing. -/
def readContent : Nat → Position → (start : Mark) → (anchor tag : Option String) → NodeReader Node
  | 0, _, _, _, _ => return default
  | n + 1, position, start, anchor, tag => do
    let token ← peek
    match token.kind with
    | .scalar style text =>
      let _ ← take
      let node := .scalar start (tag.filter (· ≠ "!")) style text
      complete (← begin anchor node) node
    | .flowSeq =>
      let _ ← take
      let order ← begin anchor (.seq start tag [])
      complete order (.seq start tag (← readFlowItems n token.start true))
    | .flowMap =>
      let _ ← take
      let order ← begin anchor (.map start tag [])
      complete order (.map start tag (← readFlowEntries n token.start true))
    | kind =>
      if position.bare && kind = .entry then
        let order ← begin anchor (.seq start tag [])
        complete order (.seq start tag (← readBareItems n))
      else if position.block && kind = .blockSeq then
        let _ ← take
        let order ← begin anchor (.seq start tag [])
        complete order (.seq start tag (← readItems n token.start))
      else if position.block && kind = .blockMap then
        let _ ← take
        let order ← begin anchor (.map start tag [])
        complete order (.map start tag (← readEntries n token.start))
      else if anchor.isSome || tag.isSome then
        let node := .scalar start tag .plain ""
        complete (← begin anchor node) node
      else
        let activity := if position.block then .blockNode else .flowNode
        giveUp { fault := .noContent, mark := token.start, activity := some (activity, start) }

/-- Reads a node, or nothing at a place before one of some tokens. -/
def readOptional : Nat → Position → List TokenKind → (place : Mark) → NodeReader Node
  | 0, _, _, _ => return default
  | n + 1, position, ends, place => do
    if ends.contains (← peek).kind then return .empty place else readNode n position

/-- Reads the items of a block that was opened at a place. -/
def readItems : Nat → (opened : Mark) → NodeReader (List Node)
  | 0, _ => return []
  | n + 1, opened => do
    let token ← peek
    match token.kind with
    | .broken p => return [.cut p]
    | .blockEnd => let _ ← take; return []
    | .entry =>
      let _ ← take
      let item ← readOptional n { block := true } [.entry, .blockEnd] token.stop
      return item :: (← readItems n opened)
    | _ =>
      return [← giveUp
        { fault := .noEntry, mark := token.start, activity := some (.blockSeq, opened) }]

/-- Reads items that stand at the indentation of the key before them. -/
def readBareItems : Nat → NodeReader (List Node)
  | 0 => return []
  | n + 1 => do
    let token ← peek
    match token.kind with
    | .broken p => return [.cut p]
    | .entry =>
      let _ ← take
      let item ← readOptional n { block := true } [.entry, .key, .value, .blockEnd] token.stop
      return item :: (← readBareItems n)
    | _ => return []

/-- Reads the keys and values of a block that was opened at a place. -/
def readEntries : Nat → (opened : Mark) → NodeReader (List (Node × Node))
  | 0, _ => return []
  | n + 1, opened => do
    let position : Position := { block := true, bare := true }
    let token ← peek
    match token.kind with
    | .broken p => return [(.cut p, .cut p)]
    | .blockEnd => let _ ← take; return []
    | .key =>
      let _ ← take
      let key ← readOptional n position [.key, .value, .blockEnd] token.stop
      let sign ← peek
      let value ← match sign.kind with
        | .broken p => pure (.cut p)
        | .value => do
          let _ ← take
          readOptional n position [.key, .value, .blockEnd] sign.stop
        | _ => pure (.empty sign.start)
      return (key, value) :: (← readEntries n opened)
    | _ =>
      let cut ← giveUp { fault := .noKey, mark := token.start, activity := some (.blockMap, opened) }
      return [(cut, cut)]

/-- Reads the value of a key between brackets, which `close` ends. -/
def readFlowValue : Nat → (close : TokenKind) → NodeReader Node
  | 0, _ => return default
  | n + 1, close => do
    let sign ← peek
    match sign.kind with
    | .broken p => return .cut p
    | .value =>
      let _ ← take
      readOptional n { block := false } [.comma, close] (← peek).start
    | _ => return .empty sign.start

/-- Reads the items between brackets that were opened at a place. A key among them makes an item that
    is a mapping; where its key is empty, the next token goes with it. -/
def readFlowItems : Nat → (opened : Mark) → (first : Bool) → NodeReader (List Node)
  | 0, _, _ => return []
  | n + 1, opened, first => do
    let token ← peek
    match token.kind with
    | .broken p => return [.cut p]
    | .flowSeqEnd => let _ ← take; return []
    | kind =>
      if !first && kind != .comma then
        return [← giveUp
          { fault := .noItemEnd, mark := token.start, activity := some (.flowSeq, opened) }]
      unless first do let _ ← take
      let token ← peek
      match token.kind with
      | .flowSeqEnd => let _ ← take; return []
      | .key =>
        let _ ← take
        let next ← peek
        let key ←
          if [.value, .comma, .flowSeqEnd].contains next.kind then do
            let _ ← take
            pure (.empty next.stop)
          else readNode n { block := false }
        let value ← readFlowValue n .flowSeqEnd
        return .map token.start none [(key, value)] :: (← readFlowItems n opened false)
      | _ =>
        let item ← readNode n { block := false }
        return item :: (← readFlowItems n opened false)

/-- Reads the keys and values between braces that were opened at a place. A key may stand without a
    value. -/
def readFlowEntries : Nat → (opened : Mark) → (first : Bool) → NodeReader (List (Node × Node))
  | 0, _, _ => return []
  | n + 1, opened, first => do
    let token ← peek
    match token.kind with
    | .broken p => return [(.cut p, .cut p)]
    | .flowMapEnd => let _ ← take; return []
    | kind =>
      if !first && kind != .comma then
        let cut ← giveUp
          { fault := .noPairEnd, mark := token.start, activity := some (.flowMap, opened) }
        return [(cut, cut)]
      unless first do let _ ← take
      let token ← peek
      match token.kind with
      | .flowMapEnd => let _ ← take; return []
      | .key =>
        let _ ← take
        let place := (← peek).start
        let key ← readOptional n { block := false } [.value, .comma, .flowMapEnd] place
        let value ← readFlowValue n .flowMapEnd
        return (key, value) :: (← readFlowEntries n opened false)
      | _ =>
        let key ← readNode n { block := false }
        let next ← peek
        let value := match next.kind with
          | .broken p => .cut p
          | _ => .empty next.start
        return (key, value) :: (← readFlowEntries n opened false)

end

/-- Reads directives: at most one version, and each handle at most once. -/
def readDirectives : Nat → (versioned : Bool) → NodeReader Unit
  | 0, _ => return
  | n + 1, versioned => do
    let token ← peek
    match token.kind with
    | .version known =>
      if versioned then let _ ← giveUp { fault := .secondVersion, mark := token.start }
      else if !known then let _ ← giveUp { fault := .unknownVersion, mark := token.start }
      else
        let _ ← take
        readDirectives n true
    | .handle name meaning =>
      if ((← get).handles.lookup name).isSome then
        let _ ← giveUp { fault := .secondHandle, mark := token.start }
      else
        let _ ← take
        modify fun c => { c with handles := (name, meaning) :: c.handles }
        readDirectives n versioned
    | _ => return

/-- The handles that have a meaning in every document that does not give them another one. -/
def defaultHandles : List (String × String) := [("!", "!"), ("!!", "tag:yaml.org,2002:")]

/-- What comes after a document. -/
inductive Rest where
  | nothing
  | problem (p : Problem)
  /-- Another document, or something else that is none. -/
  | more
deriving Inhabited

/-- The first document of a text, and what comes after it. -/
structure Document where
  /-- The tree, if there is a document at all. -/
  root : Option Node
  rest : Rest
deriving Inhabited

/-- Reads the tree of a document. Before its start mark only directives may stand. -/
def readRoot (n : Nat) : NodeReader Node := do
  let explicit := match (← peek).kind with
    | .version _ | .handle _ _ | .documentStart => true
    | _ => false
  readDirectives n false
  modify fun c => { c with handles := c.handles ++ defaultHandles }
  if !explicit then readNode n { block := true }
  else
    let token ← peek
    match token.kind with
    | .broken p => return .cut p
    | .documentStart =>
      let _ ← take
      let first ← peek
      match first.kind with
      | .version _ | .handle _ _ | .documentStart | .documentEnd | .stop => return .empty first.start
      | _ => readNode n { block := true }
    | _ => giveUp { fault := .noDocumentStart, mark := token.start }

/-- What comes after the tree of a document. Marks for its end have no meaning. -/
def readRest : NodeReader Rest := do
  match (← peek).kind with
  | .broken p => return .problem p
  | _ =>
    match ((← get).tokens.dropWhile (·.kind = .documentEnd)).map Token.kind with
    | .stop :: _ => return .nothing
    | _ => return .more

/-- Reads the first document of a text. -/
def readDocument (n : Nat) : NodeReader Document := do
  if (← peek).kind = .stop then return { root := none, rest := .nothing }
  let root ← readRoot n
  return { root, rest := ← readRest }

/-- The first document of a text. -/
def document (text : List Char) : Document :=
  let tokens := tokens text
  (readDocument (3 * tokens.length + 3) { tokens }).1

end FieldAudit.Yaml
