import StorageDriver.Number.Decimal
import StorageDriver.Json.Basic

namespace StorageDriver.Json

inductive Reading
  | null
  | bool (b : Bool)
  | number (n : Number)
  | string (s : String)
  | array (items : List Reading) (closed : Bool)
  | object (members : List (Reading × Reading)) (closed : Bool)
  /-- A number beyond the range of doubles. -/
  | vast
  /-- A string that names half of a surrogate pair. -/
  | lone
  | broken
deriving Repr, Inhabited

namespace Reading

mutual

def ofJson : Json → Reading
  | .null => .null
  | .bool b => .bool b
  | .number n => .number n
  | .string s => .string s
  | .array items => .array (ofItems items) true
  | .object members => .object (ofMembers members) true

def ofItems : List Json → List Reading
  | [] => []
  | j :: js => ofJson j :: ofItems js

def ofMembers : List (String × Json) → List (Reading × Reading)
  | [] => []
  | (k, j) :: js => (.string k, ofJson j) :: ofMembers js

end

def skipBlank (cs : List Char) : List Char :=
  cs.dropWhile fun c => c = ' ' ∨ c = '\n' ∨ c = '\t' ∨ c = '\r'

/-- Digits appended to `n` while the result fits 64 bits, with how many were. -/
def absorb (n : Nat) : List Char → Nat × Nat
  | [] => (n, 0)
  | c :: cs =>
    let m := 10 * n + Double.digitValue c
    if m < UInt64.size then
      let (r, k) := absorb m cs
      (r, k + 1)
    else (n, 0)

/-- `f / 10 ^ e`, in steps of `10 ^ 308`. Three steps take every 64-bit number to zero. -/
def shrink : Nat → Double → Nat → Double
  | 0, f, _ => f
  | fuel + 1, f, e =>
    if e ≤ 308 then f.div (.ofNat (tenTo e))
    else if f.magnitude = 0 then f
    else shrink fuel (f.div (.ofNat (tenTo 308))) (e - 308)

/-- `n * 10 ^ e` by one rounded multiplication or division of rounded operands, which is not
always the nearest double. -/
def scale (n : Nat) (e : Int) : Option Double :=
  let f := Double.ofNat n
  if e < 0 then some (shrink 4 f (-e).toNat)
  else if e ≤ 308 then
    let r := f.mul (.ofNat (tenTo e.toNat))
    if r.isFinite then some r else none
  else if n = 0 then some f else none

structure Numeral where
  minus : Bool
  whole : List Char
  fraction : Option (List Char)
  /-- The digits of the exponent and whether it is negative. -/
  exponent : Option (Bool × List Char)

def Numeral.double (n : Numeral) : Option Double :=
  let (s, k) := absorb 0 n.whole
  let (s, e) := match n.fraction with
    | none => (s, ((n.whole.length - k : Nat) : Int))
    | some ds => let (t, j) := absorb s ds; (t, ((n.whole.length - k : Nat) : Int) - j)
  let size := match n.exponent with
    | none => some e
    | some (down, ds) =>
      let x := Double.naturalOf ds
      if x < twoTo 31 then some (if down then e - x else e + x) else none
  let value := match size, n.exponent with
    | some e, _ => scale s e
    | none, some (true, _) => some .zero
    | none, _ => if s = 0 then some .zero else none
  value.map fun d => if n.minus then d.neg else d

def Numeral.reading (n : Numeral) : Reading :=
  let m := Double.naturalOf n.whole
  let asDouble := match n.double with
    | some d => .number (.float d)
    | none => .vast
  if n.fraction.isSome ∨ n.exponent.isSome then asDouble
  else if n.minus then
    if 0 < m ∧ m ≤ twoTo 63 then .number (.int (-m)) else asDouble
  else if m < UInt64.size then .number (.int m) else asDouble

def spanDigits (cs : List Char) : List Char × List Char :=
  (cs.takeWhile Char.isDigit, cs.dropWhile Char.isDigit)

def takeExponent : List Char → Option (Option (Bool × List Char) × List Char)
  | c :: cs =>
    if c = 'e' ∨ c = 'E' then
      let (down, rest) := Double.takeSign cs
      let (ds, rest) := spanDigits rest
      if ds.isEmpty then none else some (some (down, ds), rest)
    else some (none, c :: cs)
  | [] => some (none, [])

def takeFraction : List Char → Option (Option (List Char) × List Char)
  | '.' :: cs =>
    let (ds, rest) := spanDigits cs
    if ds.isEmpty then none else some (some ds, rest)
  | cs => some (none, cs)

/-- A whole part has no leading zero. -/
def takeNumeral (cs : List Char) : Option (Numeral × List Char) := do
  let (minus, cs) := match cs with
    | '-' :: r => (true, r)
    | r => (false, r)
  let (whole, rest) := spanDigits cs
  match whole with
  | [] => none
  | '0' :: _ :: _ => none
  | _ =>
    let (fraction, rest) ← takeFraction rest
    let (exponent, rest) ← takeExponent rest
    some (⟨minus, whole, fraction, exponent⟩, rest)

def hexDigit (c : Char) : Option Nat :=
  if c.isDigit then some (c.toNat - '0'.toNat)
  else if 'a' ≤ c ∧ c ≤ 'f' then some (c.toNat - 'a'.toNat + 10)
  else if 'A' ≤ c ∧ c ≤ 'F' then some (c.toNat - 'A'.toNat + 10)
  else none

def takeHex : List Char → Option (Nat × List Char)
  | a :: b :: c :: d :: rest => do
    let a ← hexDigit a
    let b ← hexDigit b
    let c ← hexDigit c
    let d ← hexDigit d
    some (((a * 16 + b) * 16 + c) * 16 + d, rest)
  | _ => none

def shortEscape : Char → Option Char
  | '"' => some '"'
  | '\\' => some '\\'
  | '/' => some '/'
  | 'b' => some '\x08'
  | 'f' => some '\x0c'
  | 'n' => some '\n'
  | 'r' => some '\r'
  | 't' => some '\t'
  | _ => none

def isLead (n : Nat) : Bool := 0xD800 ≤ n && n < 0xDC00

def isTrail (n : Nat) : Bool := 0xDC00 ≤ n && n < 0xE000

/-- One character, or half of a surrogate pair as `none`, and the rest behind it. The text starts
behind the backslash. -/
def takeEscape : List Char → Option (Option Char × List Char)
  | 'u' :: cs => do
    let (n, rest) ← takeHex cs
    if isTrail n then some (none, rest)
    else if isLead n then
      match rest with
      | '\\' :: 'u' :: more =>
        let (m, after) ← takeHex more
        if isTrail m then
          some (some (Char.ofNat (0x10000 + (n - 0xD800) * 0x400 + (m - 0xDC00))), after)
        else some (none, rest)
      | _ => some (none, rest)
    else some (some (Char.ofNat n), rest)
  | c :: cs => (shortEscape c).map fun d => (some d, cs)
  | [] => none

/-- The string behind an opening quote. `whole` is false once half of a pair was met. -/
def takeString : Nat → (whole : Bool) → (seen : List Char) → List Char →
    Option (Reading × List Char)
  | 0, _, _, _ => none
  | _, _, _, [] => none
  | fuel + 1, whole, seen, c :: cs =>
    if c = '"' then some (if whole then .string (String.ofList seen.reverse) else .lone, cs)
    else if c = '\\' then
      match takeEscape cs with
      | some (some d, rest) => takeString fuel whole (d :: seen) rest
      | some (none, rest) => takeString fuel false seen rest
      | none => none
    else if c.toNat < 0x20 then none
    else takeString fuel whole (c :: seen) cs

def takeWord (word : List Char) (r : Reading) (cs : List Char) : Reading × List Char :=
  if word.isPrefixOf cs then (r, cs.drop word.length) else (.broken, [])

def isBroken : Reading → Bool
  | .broken => true
  | .array _ closed => !closed
  | .object _ closed => !closed
  | _ => false

mutual

def value : Nat → List Char → Reading × List Char
  | 0, _ => (.broken, [])
  | fuel + 1, cs =>
    match skipBlank cs with
    | 'n' :: rest => takeWord ['u', 'l', 'l'] .null rest
    | 't' :: rest => takeWord ['r', 'u', 'e'] (.bool true) rest
    | 'f' :: rest => takeWord ['a', 'l', 's', 'e'] (.bool false) rest
    | '"' :: rest =>
      match takeString (rest.length + 1) true [] rest with
      | some r => r
      | none => (.broken, [])
    | '[' :: rest =>
      let (items, closed, rest) := items fuel true rest
      (.array items closed, rest)
    | '\x7b' :: rest =>
      let (members, closed, rest) := members fuel true rest
      (.object members closed, rest)
    | c :: rest =>
      if c = '-' ∨ c.isDigit then
        match takeNumeral (c :: rest) with
        | some (n, rest) => (n.reading, rest)
        | none => (.broken, [])
      else (.broken, [])
    | [] => (.broken, [])

def items : Nat → (first : Bool) → List Char → List Reading × Bool × List Char
  | 0, _, _ => ([], false, [])
  | fuel + 1, first, cs =>
    match skipBlank cs, first with
    | ']' :: rest, _ => ([], true, rest)
    | ',' :: rest, false =>
      match skipBlank rest with
      | ']' :: _ => ([], false, [])
      | rest => item fuel rest
    | [], _ => ([], false, [])
    | rest, true => item fuel rest
    | _, false => ([], false, [])

def item : Nat → List Char → List Reading × Bool × List Char
  | 0, _ => ([], false, [])
  | fuel + 1, cs =>
    let (r, rest) := value fuel cs
    if r.isBroken then ([r], false, [])
    else
      let (rs, closed, rest) := items fuel false rest
      (r :: rs, closed, rest)

def members : Nat → (first : Bool) → List Char → List (Reading × Reading) × Bool × List Char
  | 0, _, _ => ([], false, [])
  | fuel + 1, first, cs =>
    match skipBlank cs, first with
    | '\x7d' :: rest, _ => ([], true, rest)
    | ',' :: rest, false =>
      match skipBlank rest with
      | '"' :: rest => keyed fuel ('"' :: rest)
      | _ => ([], false, [])
    | [], _ => ([], false, [])
    | rest, true => keyed fuel rest
    | _, false => ([], false, [])

def keyed : Nat → List Char → List (Reading × Reading) × Bool × List Char
  | 0, _ => ([], false, [])
  | fuel + 1, cs =>
    let (key, rest) := value fuel cs
    match key, skipBlank rest with
    | .string _, ':' :: rest | .lone, ':' :: rest =>
      let (r, rest) := value fuel rest
      if r.isBroken then ([(key, r)], false, [])
      else
        let (rs, closed, rest) := members fuel false rest
        ((key, r) :: rs, closed, rest)
    | _, _ => ([(key, .broken)], false, [])

end

def ofText (cs : List Char) : Reading × List Char :=
  let (r, rest) := value (3 * cs.length + 3) cs
  (r, skipBlank rest)

end Reading

end StorageDriver.Json
