import StorageDriver.Yaml.Cursor

namespace StorageDriver.Yaml

inductive Style
  | plain
  | quoted
  | literal
  | folded
deriving DecidableEq, Repr

/-- A scalar that is being folded: the text, the blanks behind it, and, once a line has ended,
the first line break and those after it. -/
structure Folding where
  text : List Char := []
  blanks : List Char := []
  broken : Bool := false
  first : List Char := []
  more : List Char := []

namespace Folding

/-- One newline becomes a blank, and of several the first is dropped. -/
def join (f : Folding) : Folding :=
  let gap :=
    if f.broken then
      if f.first = ['\n'] then if f.more = [] then [' '] else f.more else f.first ++ f.more
    else f.blanks
  { text := f.text ++ gap }

def append (f : Folding) (cs : List Char) : Folding :=
  if cs = [] then f else let g := f.join; { g with text := g.text ++ cs }

/-- Read blanks and line breaks. A tab must not stand in front of column `indent` of a new line. -/
def gather (indent : Nat) : Nat → Folding → Scan Folding
  | 0, f => return f
  | n + 1, f => do
    let c ← get
    match c.peek with
    | some x =>
      if isBlank x then
        if f.broken && c.column < indent && x = '\t' then failure
        Scan.skip
        gather indent n (if f.broken then f else { f with blanks := f.blanks ++ [x] })
      else if isBreak x then
        let b ← Scan.takeBreak
        gather indent n
          (if f.broken then { f with more := f.more ++ b }
          else { f with blanks := [], broken := true, first := b })
      else return f
    | none => return f

end Folding

namespace Scan

def flowMarks : List Char := [',', '[', ']', '\x7b', '\x7d']

def endsPlain (flow : Bool) (c : Cursor) : Bool :=
  (c.sees ':' && c.gapAt 1) || (flow && c.seesAny flowMarks)

/-- In a flow collection no mark may follow a colon inside a scalar. -/
def strayColon (flow : Bool) (c : Cursor) : Bool :=
  flow && c.sees ':' && c.seesAny ('?' :: flowMarks) 1

def plainLoop (flow : Bool) (indent : Nat) : Nat → Folding → Scan Folding
  | 0, f => return f
  | n + 1, f => do
    let c ← get
    if c.atMarker || c.sees '#' then return f
    let w ← takeWhile fun c => !c.gapAt && !strayColon flow c && !endsPlain flow c
    if strayColon flow (← get) then failure
    let f := f.append w
    let c ← get
    if !(c.atBlank || c.atBreak) then return f
    let f ← f.gather indent (← fuel)
    if !flow && (← get).column < indent then return f
    plainLoop flow indent n f

/-- A plain scalar, and whether it ended with its line. `indent` is the least column of its
further lines. -/
def plain (flow : Bool) (indent : Nat) : Scan (String × Bool) := do
  let f ← plainLoop flow indent (← fuel) {}
  return (String.ofList f.text, f.broken)

def escaped : Char → Option Char
  | '0' => some '\x00'
  | 'a' => some '\x07'
  | 'b' => some '\x08'
  | 't' | '\t' => some '\t'
  | 'n' => some '\n'
  | 'v' => some '\x0b'
  | 'f' => some '\x0c'
  | 'r' => some '\r'
  | 'e' => some '\x1b'
  | ' ' => some ' '
  | '"' => some '"'
  | '/' => some '/'
  | '\\' => some '\\'
  | 'N' => some '\u0085'
  | '_' => some '\u00a0'
  | 'L' => some '\u2028'
  | 'P' => some '\u2029'
  | _ => none

def hexValue (c : Char) : Option Nat :=
  if c.isDigit then some (c.toNat - 48)
  else if 'a' ≤ c && c ≤ 'f' then some (c.toNat - 87)
  else if 'A' ≤ c && c ≤ 'F' then some (c.toNat - 55)
  else none

def hex : Nat → Nat → Scan Nat
  | 0, v => return v
  | n + 1, v => do
    let some d := (← peek).bind hexValue | failure
    skip
    hex n (v * 16 + d)

def code (digits : Nat) : Scan Char := do
  let v ← hex digits 0
  if h : v.isValidChar then return Char.ofNatAux v h else failure

def escape : Scan Char := do
  let some x ← peek | failure
  skip
  match x with
  | 'x' => code 2
  | 'u' => code 4
  | 'U' => code 8
  | x =>
    let some y := escaped x | failure
    return y

/-- Read up to a gap or the closing quote. Answers whether a line break was escaped, which ends
the run. -/
def quotedRun (single : Bool) : Nat → List Char → Scan (List Char × Bool)
  | 0, cs => return (cs, false)
  | n + 1, cs => do
    let c ← get
    let some x := c.peek | return (cs, false)
    if c.gapAt then return (cs, false)
    else if single && x = '\'' then
      if c.sees '\'' 1 then
        skip; skip
        quotedRun single n (cs ++ ['\''])
      else return (cs, false)
    else if !single && x = '"' then return (cs, false)
    else if !single && x = '\\' then
      skip
      if (← get).atBreak then
        skipBreak
        return (cs, true)
      let y ← escape
      quotedRun single n (cs ++ [y])
    else
      skip
      quotedRun single n (cs ++ [x])

def quotedLoop (single : Bool) : Nat → List Char → Scan (List Char)
  | 0, _ => failure
  | n + 1, text => do
    let c ← get
    if c.atMarker || c.peek.isNone then failure
    let (run, broken) ← quotedRun single (← fuel) []
    let f : Folding := { text := text ++ run, broken := broken }
    if (← get).sees (if single then '\'' else '"') then
      skip
      return f.text
    let f ← f.gather 0 (← fuel)
    quotedLoop single n f.join.text

def quoted (single : Bool) : Scan String := do
  skip
  return String.ofList (← quotedLoop single (← fuel) [])

inductive Chomping
  | strip
  | clip
  | keep
deriving DecidableEq, Repr

def chomping? : Scan (Option Chomping) := do
  match ← peek with
  | some '+' => skip; return some .keep
  | some '-' => skip; return some .strip
  | _ => return none

/-- The indentation that a block states for itself. Zero is none. -/
def increment? : Scan (Option Nat) := do
  let some x ← peek | return none
  if x = '0' then failure
  if x.isDigit then
    skip
    return some (x.toNat - 48)
  return none

def blockHeader : Scan (Chomping × Option Nat) := do
  match ← chomping? with
  | some ch => return (ch, ← increment?)
  | none =>
    let increment ← increment?
    if increment.isSome then return ((← chomping?).getD .clip, increment)
    return (.clip, none)

/-- Pass over indentation and empty lines. `indent` is the block's own, if it is known already.
Answers the line breaks and the widest indentation seen. -/
def blockGap (indent : Option Nat) : Nat → List Char → Nat → Scan (List Char × Nat)
  | 0, breaks, widest => return (breaks, widest)
  | n + 1, breaks, widest => do
    let within (c : Cursor) := indent.all (c.column < ·)
    skipWhile fun c => within c && c.sees ' '
    let c ← get
    let widest := max widest c.column
    if within c && c.sees '\t' then failure
    if c.atBreak then
      let b ← takeBreak
      blockGap indent n (breaks ++ b) widest
    else return (breaks, widest)

/-- The text so far, the line break behind it, and whether its last line began with a blank. -/
structure Block where
  text : List Char := []
  last : List Char := []
  blank : Bool := false

def blockLines (folded : Bool) (indent : Nat) :
    Nat → Block → List Char → Scan (Block × List Char)
  | 0, b, breaks => return (b, breaks)
  | n + 1, b, breaks => do
    let c ← get
    if c.column ≠ indent || c.peek.isNone then return (b, breaks)
    let blank := c.atBlank
    let gap :=
      if folded && b.last.head? = some '\n' && !b.blank && !blank then
        if breaks = [] then [' '] else []
      else b.last
    let line ← takeWhile fun c => !c.lineEndAt
    let last ← if (← get).atBreak then takeBreak else pure []
    let (next, _) ← blockGap (some indent) (← fuel) [] 0
    blockLines folded indent n
      { text := b.text ++ gap ++ breaks ++ line, last := last, blank := blank } next

/-- A block inside a collection at column `outer`, which is `none` outside of any. -/
def block (folded : Bool) (outer : Option Nat) : Scan String := do
  skip
  let (chomping, increment) ← blockHeader
  finishLine
  let stated := increment.map (· + outer.getD 0)
  let (breaks, widest) ← blockGap stated (← fuel) [] 0
  let indent := stated.getD (max (max widest (outer.elim 0 (· + 1))) 1)
  let (b, breaks) ← blockLines folded indent (← fuel) {} breaks
  return String.ofList (b.text ++
    (if chomping = .strip then [] else b.last) ++ (if chomping = .keep then breaks else []))

end Scan

end StorageDriver.Yaml
