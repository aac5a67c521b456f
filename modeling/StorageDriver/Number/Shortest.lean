import StorageDriver.Number.Double

namespace StorageDriver.Double

structure Decimal where
  digits : Nat
  exponent : Int
deriving DecidableEq, Repr

/-- Twice the units of the middle between `d` and its neighbours: below, at and above `d`. -/
def bounds (d : Double) : Nat × Nat × Nat :=
  let u := d.units
  ((⟨false, d.magnitude - 1⟩ : Double).units + u, 2 * u,
    u + (⟨false, d.magnitude + 1⟩ : Double).units)

/-- Find `e` with `10 ^ e ≤ v / 2 ^ 1075 < 10 ^ (e + 1)` for a positive `v` below `2 ^ 1075`. -/
def seekExponent (v : Nat) : Nat → Nat → Int
  | 0, j => -j
  | fuel + 1, j => if twoTo 1075 ≤ v * tenTo j then -j else seekExponent v fuel (j + 1)

def decimalExponent (v : Nat) : Int :=
  if twoTo 1075 ≤ v then (Nat.toDigits 10 (v / twoTo 1075)).length - 1 else seekExponent v 330 1

def onGrid (c : Nat) (s : Int) : Nat × Nat :=
  if 0 ≤ s then (c * tenTo s.toNat * twoTo 1075, 1)
  else (c * twoTo 1075, tenTo (-s).toNat)

def inside (even : Bool) (low high : Nat) (p : Nat × Nat) : Bool :=
  if even then low * p.2 ≤ p.1 && p.1 ≤ high * p.2 else low * p.2 < p.1 && p.1 < high * p.2

def distance (v : Nat) (p : Nat × Nat) : Nat :=
  (p.1 - v * p.2) + (v * p.2 - p.1)

def neighbour (even : Bool) (low v high : Nat) (e : Int) (n : Nat) : Option Decimal :=
  let s := e + 1 - n
  let c := if 0 ≤ s then v / (twoTo 1075 * tenTo s.toNat) else v * tenTo (-s).toNat / twoTo 1075
  let a := onGrid c s
  let b := onGrid (c + 1) s
  match inside even low high a, inside even low high b with
  | true, true => some ⟨if distance v b < distance v a then c + 1 else c, s⟩
  | true, false => some ⟨c, s⟩
  | false, true => some ⟨c + 1, s⟩
  | false, false => none

def shortest (d : Double) : Decimal :=
  if d.magnitude = 0 then ⟨0, 0⟩
  else
    let (low, v, high) := d.bounds
    let e := decimalExponent v
    let even := d.magnitude % 2 = 0
    ((List.range 17).findSome? fun n => neighbour even low v high e (n + 1)).getD ⟨0, 0⟩

def dropZeros : List Char → List Char
  | [] => []
  | cs => match (cs.reverse.dropWhile (· = '0')).reverse with
    | [] => ['0']
    | ds => ds

/-- Positional between `10 ^ -5` and `10 ^ 16`, else with an exponent. -/
def text (d : Double) : String :=
  let p := d.shortest
  let all := Nat.toDigits 10 p.digits
  let ds := dropZeros all
  let point : Int := all.length + p.exponent
  let n := ds.length
  let zeros (k : Nat) := List.replicate k '0'
  let body :=
    if d.magnitude = 0 then ['0', '.', '0']
    else if n ≤ point ∧ point ≤ 16 then ds ++ zeros (point.toNat - n) ++ ['.', '0']
    else if 0 < point ∧ point ≤ 16 then ds.take point.toNat ++ '.' :: ds.drop point.toNat
    else if -5 < point ∧ point ≤ 0 then '0' :: '.' :: zeros (-point).toNat ++ ds
    else
      let mantissa := match ds with
        | [c] => [c]
        | c :: cs => c :: '.' :: cs
        | [] => ['0']
      mantissa ++ 'e' :: (toString (point - 1)).toList
  String.ofList (if d.negative then '-' :: body else body)

end StorageDriver.Double
