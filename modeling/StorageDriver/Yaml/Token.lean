import StorageDriver.Yaml.Scalar

namespace StorageDriver.Yaml

inductive Token
  | version (major minor : Nat)
  | tagHandle (handle pre : String)
  | documentStart
  | documentEnd
  | sequenceStart
  | mappingStart
  | blockEnd
  | flowSequenceStart
  | flowSequenceEnd
  | flowMappingStart
  | flowMappingEnd
  | flowEntry
  | entry
  | key
  | value
  | reference (anchor : String)
  | anchor (name : String)
  | tag (handle suffix : String)
  | scalar (style : Style) (text : String)
  | streamEnd
deriving DecidableEq, Repr

/-- A place where the key of a mapping may have begun. It is `needed` where nothing else may stand
there. -/
structure Candidate where
  number : Nat
  line : Nat
  column : Nat
  index : Nat
  needed : Bool
deriving DecidableEq, Repr

/-- The tokens so far with what decides about the next. `indent` is the column of the innermost
block and `none` outside of any, `outer` are the columns around it. `flow` counts the open flow
collections, each of which has a place for a candidate, the innermost first. -/
structure Lexer where
  cursor : Cursor
  tokens : Array Token := #[]
  indent : Option Nat := none
  outer : List (Option Nat) := []
  flow : Nat := 0
  candidate : Option Candidate := none
  waiting : List (Option Candidate) := []
  keyAllowed : Bool := true

namespace Lexer

def emit (l : Lexer) (t : Token) : Lexer := { l with tokens := l.tokens.push t }

def scan {α : Type} (l : Lexer) (s : Scan α) : Option (α × Lexer) := do
  let (a, c) ← s.run l.cursor
  return (a, { l with cursor := c })

def mark (l : Lexer) (n : Nat) (t : Token) : Lexer :=
  { l with cursor := n.repeat Cursor.skip l.cursor }.emit t

/-- A key has to stand on one line and within 1024 characters. -/
def isStale (c : Cursor) (k : Candidate) : Bool := k.line < c.line || k.index + 1024 < c.index

def dropStale (c : Cursor) : Option Candidate → Option (Option Candidate)
  | some k =>
    if isStale c k then if k.needed then none else some none else some (some k)
  | none => some none

def refreshCandidates (l : Lexer) : Option Lexer := do
  let candidate ← dropStale l.cursor l.candidate
  let waiting ← l.waiting.mapM (dropStale l.cursor)
  return { l with candidate := candidate, waiting := waiting }

def dropCandidate (l : Lexer) : Option Lexer :=
  if l.candidate.any (·.needed) then none else some { l with candidate := none }

def markCandidate (l : Lexer) : Option Lexer := do
  if !l.keyAllowed then return l
  let l ← l.dropCandidate
  return { l with candidate := some {
    number := l.tokens.size
    line := l.cursor.line
    column := l.cursor.column
    index := l.cursor.index
    needed := l.flow = 0 && l.indent = some l.cursor.column } }

/-- Open a block at `column`, if that is further in, with its token at place `number`. -/
def openBlock (l : Lexer) (column number : Nat) (t : Token) : Lexer :=
  if l.flow = 0 && l.indent.all (· < column) then
    { l with
      indent := some column, outer := l.indent :: l.outer,
      tokens := l.tokens.insertIdxIfInBounds number t }
  else l

def closeBlocks (l : Lexer) (column : Option Nat) : Lexer :=
  if l.flow > 0 then l else loop l.indent l.outer l.tokens
where
  loop (indent : Option Nat) (outer : List (Option Nat)) (tokens : Array Token) : Lexer :=
    if indent.any fun i => column.all (· < i) then
      match outer with
      | i :: is => loop i is (tokens.push .blockEnd)
      | [] => { l with indent := none, outer := [], tokens := tokens.push .blockEnd }
    else { l with indent := indent, outer := outer, tokens := tokens }

def document (l : Lexer) (t : Token) : Option Lexer := do
  let l ← (l.closeBlocks none).dropCandidate
  return { l with keyAllowed := false }.mark 3 t

def openFlow (l : Lexer) (t : Token) : Option Lexer := do
  let l ← l.markCandidate
  return { l with
    candidate := none, waiting := l.candidate :: l.waiting, flow := l.flow + 1,
    keyAllowed := true }.mark 1 t

def closeFlow (l : Lexer) (t : Token) : Option Lexer := do
  let l ← l.dropCandidate
  let l := { l with keyAllowed := false }
  return (if l.flow = 0 then l
    else { l with
      flow := l.flow - 1, candidate := l.waiting.head?.join, waiting := l.waiting.tail }).mark 1 t

def flowEntry (l : Lexer) : Option Lexer := do
  let l ← l.dropCandidate
  return { l with keyAllowed := true }.mark 1 .flowEntry

/-- Open a block for an entry, a key or a value that stands for itself. -/
def openFor (l : Lexer) (t : Token) : Option Lexer :=
  if l.flow > 0 then some l
  else if l.keyAllowed then some (l.openBlock l.cursor.column l.tokens.size t)
  else none

def entry (l : Lexer) : Option Lexer := do
  let l ← (← l.openFor .sequenceStart).dropCandidate
  return { l with keyAllowed := true }.mark 1 .entry

def key (l : Lexer) : Option Lexer := do
  let l ← (← l.openFor .mappingStart).dropCandidate
  return { l with keyAllowed := l.flow = 0 }.mark 1 .key

/-- A colon. If a key may have begun it did, and gets its token. -/
def value (l : Lexer) : Option Lexer := do
  match l.candidate with
  | some k =>
    let l := { l with tokens := l.tokens.insertIdxIfInBounds k.number .key }
    let l := l.openBlock k.column k.number .mappingStart
    return { l with candidate := none, keyAllowed := false }.mark 1 .value
  | none =>
    let l ← l.openFor .mappingStart
    return { l with keyAllowed := l.flow = 0 }.mark 1 .value

def lead (l : Lexer) (s : Scan Token) : Option Lexer := do
  let l ← l.markCandidate
  let (t, l) ← { l with keyAllowed := false }.scan s
  return l.emit t

def plain (l : Lexer) : Option Lexer := do
  let l ← l.markCandidate
  let ((text, broken), l) ← { l with keyAllowed := false }.scan
    (Scan.plain (l.flow > 0) (l.indent.elim 0 (· + 1)))
  return { l with keyAllowed := broken }.emit (.scalar .plain text)

def block (l : Lexer) (folded : Bool) : Option Lexer := do
  let l ← l.dropCandidate
  let (text, l) ← { l with keyAllowed := true }.scan (Scan.block folded l.indent)
  return l.emit (.scalar (if folded then .folded else .literal) text)

end Lexer

namespace Scan

def name : Scan String := do
  skip
  let w ← word
  let c ← get
  if w = "" || !(c.gapAt || c.seesAny ['?', ':', ',', ']', '\x7d', '%', '@', '\x60']) then failure
  return w

def uriMarks : List Char :=
  [';', '/', '?', ':', '@', '&', '=', '+', '$', '.', '%', '!', '~', '*', '\'', '(', ')']

/-- The bytes of one escaped character, of which `n` more have to follow the first. -/
def escapedBytes : Nat → List UInt8 → Scan (List UInt8)
  | 0, bytes => return bytes
  | n + 1, bytes => do
    expect (·.sees '%')
    skip
    let v ← hex 2 0
    if v / 64 ≠ 2 then failure
    escapedBytes n (bytes ++ [v.toUInt8])

def escapedChar : Scan (List Char) := do
  skip
  let v ← hex 2 0
  let n ← if v < 128 then pure 0 else if v / 32 = 6 then pure 1 else if v / 16 = 14 then pure 2
    else if v / 8 = 30 then pure 3 else failure
  let bytes ← escapedBytes n [v.toUInt8]
  let some text := String.fromUTF8? (ByteArray.mk bytes.toArray) | failure
  return text.toList

def uriLoop (flow : Bool) : Nat → List Char → Scan (List Char)
  | 0, cs => return cs
  | n + 1, cs => do
    match ← peek with
    | some x =>
      if x = '%' then
        let more ← escapedChar
        uriLoop flow n (cs ++ more)
      else if isWordChar x || uriMarks.contains x || (flow && [',', '[', ']'].contains x) then
        skip
        uriLoop flow n (cs ++ [x])
      else return cs
    | none => return cs

/-- The rest of a tag. It must not be empty unless `head` stands in front of it. -/
def uri (flow : Bool) (head : List Char) : Scan String := do
  let cs ← uriLoop flow (← fuel) []
  if head = [] && cs = [] then failure
  return String.ofList (head.drop 1 ++ cs)

/-- A mark, a name and, if it is there, a second mark. A directive needs the second mark unless the
first stands alone. -/
def handle (directive : Bool) : Scan String := do
  expect (·.sees '!')
  skip
  let w ← word
  if (← get).sees '!' then
    skip
    return "!" ++ w ++ "!"
  if directive && w ≠ "" then failure
  return "!" ++ w

def tag (flow : Bool) : Scan Token := do
  let t ← if (← get).sees '<' 1 then do
      skip; skip
      let suffix ← uri true []
      expect (·.sees '>')
      skip
      pure (Token.tag "" suffix)
    else do
      let h ← handle false
      if h.length > 1 && h.endsWith "!" then pure (Token.tag h (← uri false []))
      else
        let suffix ← uri false h.toList
        pure (if suffix = "" then Token.tag "" "!" else Token.tag "!" suffix)
  if !(flow && (← get).sees ',') then expect (·.gapAt)
  return t

def number : Scan Nat := do
  let ds ← takeWhile fun c => c.peek.any Char.isDigit
  if ds = [] || ds.length > 9 then failure
  return ds.foldl (fun n d => n * 10 + (d.toNat - 48)) 0

def directive : Scan Token := do
  skip
  let w ← word
  if w = "" then failure
  expect (·.gapAt)
  let t ← match w with
    | "YAML" => do
      skipWhile Cursor.atBlank
      let major ← number
      expect (·.sees '.')
      skip
      pure (Token.version major (← number))
    | "TAG" => do
      skipWhile Cursor.atBlank
      let h ← handle true
      expect (·.atBlank)
      skipWhile Cursor.atBlank
      let pre ← uri true []
      expect (·.gapAt)
      pure (Token.tagHandle h pre)
    | _ => failure
  finishLine
  return t

end Scan

namespace Lexer

/-- Pass over blanks, comments and line ends. Tabs count as blanks only where no key may begin. -/
def advance (l : Lexer) : Lexer :=
  loop (l.cursor.rest.length + 1) l.cursor l.keyAllowed
where
  loop : Nat → Cursor → Bool → Lexer
    | 0, c, allowed => { l with cursor := c, keyAllowed := allowed }
    | n + 1, c, allowed =>
      let c := if c.column = 0 && c.sees '\uFEFF' then c.skip else c
      let tabs := l.flow > 0 || !allowed
      let blank := fun (c : Cursor) => c.sees ' ' || (tabs && c.sees '\t')
      let c := (((Scan.skipWhile blank) *> Scan.skipComment).run c).elim c (·.2)
      if c.atBreak then loop n c.skipBreak (allowed || l.flow = 0)
      else { l with cursor := c, keyAllowed := allowed }

def finish (l : Lexer) : Option Lexer := do
  let c := l.cursor
  let line := if c.column = 0 then c.line else c.line + 1
  let l ← ({ l with cursor := { c with column := 0, line := line } }.closeBlocks none).dropCandidate
  return l.emit .streamEnd

def startsPlain (l : Lexer) : Bool :=
  let c := l.cursor
  !(c.gapAt || c.seesAny ['-', '?', ':', ',', '[', ']', '\x7b', '\x7d', '#', '&', '*', '!', '|',
      '>', '\'', '"', '%', '@', '\x60']) ||
    (c.sees '-' && !((c.peek 1).any isBlank)) ||
    (l.flow = 0 && c.seesAny ['?', ':'] && !c.gapAt 1)

/-- Read the next token, which may bring others with it. -/
def next (l : Lexer) : Option Lexer := do
  let l ← l.advance.refreshCandidates
  let l := l.closeBlocks (some l.cursor.column)
  let c := l.cursor
  let inFlow := l.flow > 0
  match c.peek with
  | none => l.finish
  | some x =>
    if c.column = 0 && x = '%' then do
      let l ← (l.closeBlocks none).dropCandidate
      let (t, l) ← { l with keyAllowed := false }.scan Scan.directive
      return l.emit t
    else if c.atMark '-' then l.document .documentStart
    else if c.atMark '.' then l.document .documentEnd
    else if x = '[' then l.openFlow .flowSequenceStart
    else if x = '\x7b' then l.openFlow .flowMappingStart
    else if x = ']' then l.closeFlow .flowSequenceEnd
    else if x = '\x7d' then l.closeFlow .flowMappingEnd
    else if x = ',' then l.flowEntry
    else if x = '-' && c.gapAt 1 then l.entry
    else if x = '?' && (inFlow || c.gapAt 1) then l.key
    else if x = ':' && (inFlow || c.gapAt 1) then l.value
    else if x = '*' then l.lead (Token.reference <$> Scan.name)
    else if x = '&' then l.lead (Token.anchor <$> Scan.name)
    else if x = '!' then l.lead (Scan.tag inFlow)
    else if x = '|' && !inFlow then l.block false
    else if x = '>' && !inFlow then l.block true
    else if x = '\'' then l.lead (Token.scalar .quoted <$> Scan.quoted true)
    else if x = '"' then l.lead (Token.scalar .quoted <$> Scan.quoted false)
    else if l.startsPlain then l.plain
    else none

def run : Nat → Lexer → Option (List Token)
  | 0, _ => none
  | n + 1, l => do
    let l ← l.next
    if l.tokens.back? = some .streamEnd then return l.tokens.toList
    run n l

end Lexer

/-- The tokens of a text, the byte order mark in front of it aside. -/
def Token.ofText (text : List Char) : Option (List Token) :=
  let cs := match text with
    | '\uFEFF' :: cs => cs
    | cs => cs
  if cs.all isAllowed then Lexer.run (cs.length + 1) { cursor := { rest := cs } } else none

end StorageDriver.Yaml
