import StorageDriver.Number.Double

namespace StorageDriver.Double

inductive TextFault
  | empty
  | invalid
deriving DecidableEq, Repr

def TextFault.message : TextFault → String
  | .empty => "cannot parse float from empty string"
  | .invalid => "invalid float literal"

def digitValue (c : Char) : Nat := c.toNat - '0'.toNat

def naturalOf (cs : List Char) : Nat := cs.foldl (fun n c => 10 * n + digitValue c) 0

/-- The double nearest to `n * 10 ^ e`. An exponent far outside the range of doubles is cut short,
which changes no result. -/
def ofScaled (negative : Bool) (n : Nat) (e : Int) : Double :=
  if n = 0 then ⟨negative, 0⟩
  else if 400 < e then ⟨negative, infinite⟩
  else if 0 ≤ e then ⟨negative, nearest (n * tenTo e.toNat) 1⟩
  else if (400 + n.log2 + 1 : Nat) < -e then ⟨negative, 0⟩
  else ⟨negative, nearest n (tenTo (-e).toNat)⟩

def takeSign : List Char → Bool × List Char
  | '-' :: cs => (true, cs)
  | '+' :: cs => (false, cs)
  | cs => (false, cs)

def exponentOf : List Char → Option Int
  | [] => some 0
  | c :: cs =>
    if c = 'e' ∨ c = 'E' then
      let (minus, ds) := takeSign cs
      if ds.isEmpty ∨ ds.any (!·.isDigit) then none
      else some (if minus then -(naturalOf ds : Int) else naturalOf ds)
    else none

def numberOf (negative : Bool) (cs : List Char) : Option Double := do
  let whole := cs.takeWhile Char.isDigit
  let rest := cs.dropWhile Char.isDigit
  let (fraction, rest) := match rest with
    | '.' :: r => (r.takeWhile Char.isDigit, r.dropWhile Char.isDigit)
    | r => ([], r)
  if whole.isEmpty && fraction.isEmpty then none
  else
    let e ← exponentOf rest
    some (ofScaled negative (naturalOf (whole ++ fraction)) (e - fraction.length))

def ofText (cs : List Char) : Except TextFault Double :=
  if cs.isEmpty then .error .empty
  else
    let (negative, body) := takeSign cs
    let word := String.ofList (body.map Char.toLower)
    if word = "inf" ∨ word = "infinity" then .ok ⟨negative, infinite⟩
    else if word = "nan" then .ok ⟨negative, notANumber.magnitude⟩
    else match numberOf negative body with
      | some d => .ok d
      | none => .error .invalid

end StorageDriver.Double
