import StorageDriver.Table
import StorageDriver.Yaml.Token

namespace StorageDriver.Yaml

inductive Node
  | scalar (style : Style) (tag : Option String) (text : String)
  | sequence (items : List Node)
  | mapping (members : List (Node × Node))
  | reference (number : Nat)
deriving Repr, Inhabited

def Node.empty : Node := .scalar .plain none ""

/-- A tree with the nodes that can be referred to, under their numbers. -/
structure Document where
  root : Node
  anchored : List (Nat × Node) := []
deriving Repr, Inhabited

/-- The tokens still to be read, and the anchors and tag handles known so far. Of two anchors with
one name the later counts. -/
structure Parse.State where
  tokens : List Token
  handles : Table String := []
  anchors : Table Nat := []
  anchored : List (Nat × Node) := []
  count : Nat := 0

abbrev Parse (α : Type) : Type := StateT Parse.State Option α

namespace Parse

def peek : Parse Token := return (← get).tokens.headD .streamEnd

def skip : Parse Unit := modify fun s => { s with tokens := s.tokens.tail }

def sees (t : Token) : Parse Bool := return (← peek) = t

def expect (t : Token) : Parse Unit := do
  if ← sees t then skip else failure

def accept (t : Token) : Parse Bool := do
  if ← sees t then
    skip
    return true
  return false

structure Directives where
  versioned : Bool := false
  handles : Table String := []

/-- The directives in front of a document. Each may be given once. -/
def directives : Nat → Directives → Parse Directives
  | 0, d => return d
  | n + 1, d => do
    match ← peek with
    | .version major minor =>
      if d.versioned || major ≠ 1 || (minor ≠ 1 && minor ≠ 2) then failure
      skip
      directives n { d with versioned := true }
    | .tagHandle handle pre =>
      if Table.has d.handles handle then failure
      skip
      directives n { d with handles := d.handles.put handle pre }
    | _ => return d

def setHandles (d : Directives) : Parse Unit :=
  let given := if Table.has d.handles "!" then d.handles else d.handles.put "!" "!"
  let given := if Table.has given "!!" then given else given.put "!!" "tag:yaml.org,2002:"
  modify fun s => { s with handles := given }

structure Properties where
  number : Option Nat := none
  tag : Option String := none
  given : Bool := false

def anchor : Parse (Option Nat) := do
  match ← peek with
  | .anchor name =>
    skip
    let s ← get
    set { s with anchors := s.anchors.put name s.count, count := s.count + 1 }
    return some s.count
  | _ => return none

/-- The tag in full. A handle has to be known. -/
def tag : Parse (Option String) := do
  match ← peek with
  | .tag handle suffix =>
    skip
    if handle = "" then return some suffix
    let some pre := (← get).handles.get? handle | failure
    return some (pre ++ suffix)
  | _ => return none

def properties : Parse Properties := do
  match ← anchor with
  | some n => return { number := some n, tag := ← tag, given := true }
  | none =>
    let t ← tag
    if t.isNone then return {}
    return { number := ← anchor, tag := t, given := true }

def keep (number : Option Nat) (n : Node) : Parse Node := do
  match number with
  | some i => modify fun s => { s with anchored := (i, n) :: s.anchored }
  | none => pure ()
  return n

/-- The single `!` is no tag. -/
def scalarTag (p : Properties) : Option String := p.tag.filter (· ≠ "!")

/-- Where a node may be missing: an empty one if one of the tokens `ends` stands here. -/
def orEmpty (ends : List Token) (p : Parse Node) : Parse Node := do
  if ends.contains (← peek) then return Node.empty else p

mutual

def node : Nat → (inBlock inKey : Bool) → Parse Node
  | 0, _, _ => failure
  | n + 1, inBlock, inKey => do
    if let .reference name := ← peek then
      skip
      let some i := (← get).anchors.get? name | failure
      return .reference i
    let p ← properties
    let t ← peek
    if inKey && t = .entry then keep p.number (.sequence (← bareEntries n))
    else match t with
    | .scalar style text =>
      skip
      keep p.number (.scalar style (scalarTag p) text)
    | .flowSequenceStart =>
      skip
      keep p.number (.sequence (← flowItems n true))
    | .flowMappingStart =>
      skip
      keep p.number (.mapping (← flowMembers n true))
    | _ =>
      if inBlock && t = .sequenceStart then
        skip
        keep p.number (.sequence (← entries n))
      else if inBlock && t = .mappingStart then
        skip
        keep p.number (.mapping (← members n))
      else if p.given then keep p.number (.scalar .plain p.tag "")
      else failure

def entries : Nat → Parse (List Node)
  | 0 => failure
  | n + 1 => do
    if ← accept .entry then
      let a ← orEmpty [.entry, .blockEnd] (node n true false)
      return a :: (← entries n)
    expect .blockEnd
    return []

def bareEntries : Nat → Parse (List Node)
  | 0 => failure
  | n + 1 => do
    if ← accept .entry then
      let a ← orEmpty [.entry, .key, .value, .blockEnd] (node n true false)
      return a :: (← bareEntries n)
    return []

def members : Nat → Parse (List (Node × Node))
  | 0 => failure
  | n + 1 => do
    let ends := [.key, .value, .blockEnd]
    if ← accept .key then
      let k ← orEmpty ends (node n true true)
      let v ← if ← accept .value then orEmpty ends (node n true true) else pure Node.empty
      return (k, v) :: (← members n)
    expect .blockEnd
    return []

def flowItems : Nat → (first : Bool) → Parse (List Node)
  | 0, _ => failure
  | n + 1, first => do
    if ← accept .flowSequenceEnd then return []
    if !first then expect .flowEntry
    if ← accept .key then
      let a ← pair n
      return a :: (← flowItems n false)
    if ← accept .flowSequenceEnd then return []
    let a ← node n false false
    return a :: (← flowItems n false)

/-- A single pair in a flow sequence. Where its key is missing the token is passed over. -/
def pair : Nat → Parse Node
  | 0 => failure
  | n + 1 => do
    let k ← if [.value, .flowEntry, .flowSequenceEnd].contains (← peek) then
        skip
        pure Node.empty
      else node n false false
    let v ← if ← accept .value then
        orEmpty [.flowEntry, .flowSequenceEnd] (node n false false)
      else pure Node.empty
    return .mapping [(k, v)]

def flowMembers : Nat → (first : Bool) → Parse (List (Node × Node))
  | 0, _ => failure
  | n + 1, first => do
    if ← accept .flowMappingEnd then return []
    if !first then expect .flowEntry
    if ← accept .key then
      let k ← orEmpty [.value, .flowEntry, .flowMappingEnd] (node n false false)
      let v ← if ← accept .value then
          orEmpty [.flowEntry, .flowMappingEnd] (node n false false)
        else pure Node.empty
      return (k, v) :: (← flowMembers n false)
    if ← accept .flowMappingEnd then return []
    let k ← node n false false
    return (k, Node.empty) :: (← flowMembers n false)

end

def isBare : Token → Bool
  | .version _ _ | .tagHandle _ _ | .documentStart | .streamEnd => false
  | _ => true

def isContent : Token → Bool
  | .version _ _ | .tagHandle _ _ | .documentStart | .documentEnd | .streamEnd => false
  | _ => true

def skipEnds : Nat → Parse Unit
  | 0 => return ()
  | n + 1 => do if ← accept .documentEnd then skipEnds n

/-- The only document of a text. A text without any has an empty one. -/
def document (fuel : Nat) : Parse Document := do
  let t ← peek
  if t = .streamEnd then return { root := .empty }
  let root ← if isBare t then do
      setHandles {}
      node fuel true false
    else do
      setHandles (← directives fuel {})
      expect .documentStart
      if isContent (← peek) then node fuel true false else pure Node.empty
  skipEnds fuel
  expect .streamEnd
  return { root := root, anchored := (← get).anchored }

end Parse

/-- A node takes at most four calls for each of its tokens. -/
def Document.ofTokens (tokens : List Token) : Option Document :=
  ((Parse.document (4 * tokens.length + 8)).run { tokens := tokens }).map (·.1)

def Document.ofText (text : String) : Option Document :=
  (Token.ofText text.toList).bind Document.ofTokens

def Document.resolve (d : Document) : Node → Node
  | .reference i => ((d.anchored.find? (·.1 = i)).map (·.2)).getD .empty
  | n => n

end StorageDriver.Yaml
