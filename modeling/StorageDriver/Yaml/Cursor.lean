namespace StorageDriver.Yaml

structure Cursor where
  rest : List Char
  line : Nat := 0
  column : Nat := 0
  index : Nat := 0
deriving DecidableEq, Repr

/-- Reading may fail, and the whole text with it. -/
abbrev Scan (α : Type) : Type := StateT Cursor Option α

def isBlank (c : Char) : Bool := c = ' ' || c = '\t'

def isBreak (c : Char) : Bool :=
  c = '\n' || c = '\r' || c = '\u0085' || c = '\u2028' || c = '\u2029'

def isWordChar (c : Char) : Bool := c.isAlphanum || c = '_' || c = '-'

def isAllowed (c : Char) : Bool :=
  c = '\t' || c = '\n' || c = '\r' || (' ' ≤ c && c ≤ '~') || c = '\u0085' ||
    ('\u00A0' ≤ c && c ≤ '\uFFFD') || 0x10000 ≤ c.toNat

namespace Cursor

def peek (c : Cursor) (n : Nat := 0) : Option Char := c.rest[n]?

def sees (c : Cursor) (x : Char) (n : Nat := 0) : Bool := c.peek n = some x

def seesAny (c : Cursor) (xs : List Char) (n : Nat := 0) : Bool := (c.peek n).any xs.contains

def atBlank (c : Cursor) : Bool := c.peek.any isBlank

def atBreak (c : Cursor) : Bool := c.peek.any isBreak

/-- Whether the text ends `n` places on, or a blank or a line break stands there. -/
def gapAt (c : Cursor) (n : Nat := 0) : Bool := (c.peek n).all fun x => isBlank x || isBreak x

def lineEndAt (c : Cursor) (n : Nat := 0) : Bool := (c.peek n).all isBreak

def atMark (c : Cursor) (x : Char) : Bool :=
  c.column = 0 && c.sees x 0 && c.sees x 1 && c.sees x 2 && c.gapAt 3

def atMarker (c : Cursor) : Bool := c.atMark '-' || c.atMark '.'

def skip (c : Cursor) : Cursor :=
  { c with rest := c.rest.tail, column := c.column + 1, index := c.index + 1 }

def skipBreak (c : Cursor) : Cursor :=
  let n := if c.sees '\r' && c.sees '\n' 1 then 2 else 1
  { rest := c.rest.drop n, line := c.line + 1, column := 0, index := c.index + n }

/-- The line break here as it counts in a scalar: most of them are one newline. -/
def breakText (c : Cursor) : List Char :=
  match c.peek with
  | some '\u2028' => ['\u2028']
  | some '\u2029' => ['\u2029']
  | _ => ['\n']

end Cursor

namespace Scan

def peek (n : Nat := 0) : Scan (Option Char) := return (← get).peek n

def skip : Scan Unit := modify Cursor.skip

def skipBreak : Scan Unit := modify Cursor.skipBreak

def takeBreak : Scan (List Char) := do
  let text := (← get).breakText
  skipBreak
  return text

def fuel : Scan Nat := return (← get).rest.length + 1

def takeWhile (p : Cursor → Bool) : Scan (List Char) := do
  loop (← fuel)
where
  loop : Nat → Scan (List Char)
    | 0 => return []
    | n + 1 => do
      let c ← get
      match c.peek with
      | some x => if p c then skip; return x :: (← loop n) else return []
      | none => return []

def skipWhile (p : Cursor → Bool) : Scan Unit := do
  let _ ← takeWhile p

def skipComment : Scan Unit := do
  if (← get).sees '#' then skipWhile fun c => !c.lineEndAt

def word : Scan String := do
  return String.ofList (← takeWhile fun c => c.peek.any isWordChar)

def expect (p : Cursor → Bool) : Scan Unit := do
  if p (← get) then return () else failure

def finishLine : Scan Unit := do
  skipWhile Cursor.atBlank
  skipComment
  expect (·.lineEndAt)
  if (← get).atBreak then skipBreak

end Scan

end StorageDriver.Yaml
