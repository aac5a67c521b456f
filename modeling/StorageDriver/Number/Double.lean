import StorageDriver.Number.Power

namespace StorageDriver

/-- The 63 bits of `magnitude` grow with the absolute value. -/
structure Double where
  negative : Bool
  magnitude : Nat
deriving DecidableEq, Repr, Inhabited

namespace Double

def infinite : Nat := 2047 * twoTo 52

def zero : Double := ⟨false, 0⟩

def infinity : Double := ⟨false, infinite⟩

def notANumber : Double := ⟨false, infinite + twoTo 51⟩

def isFinite (d : Double) : Bool := d.magnitude < infinite

def neg (d : Double) : Double := ⟨!d.negative, d.magnitude⟩

/-- The quotient rounded to the nearest whole number, a tie going to the even one. -/
def divEven (a b : Nat) : Nat :=
  let q := a / b
  let r := a % b
  if b < 2 * r ∨ (2 * r = b ∧ q % 2 = 1) then q + 1 else q

/-- The magnitude of the double nearest to `num / den`. -/
def nearest (num den : Nat) : Nat :=
  let scaled := num * twoTo 1074
  let k := (scaled / den).log2 + 1 - 53
  min (k * twoTo 52 + divEven scaled (den * twoTo k)) infinite

def ofNat (n : Nat) : Double := ⟨false, nearest n 1⟩

def ofInt (i : Int) : Double := ⟨i < 0, nearest i.natAbs 1⟩

/-- The absolute value of a finite double in units of `2 ^ -1074`. -/
def units (d : Double) : Nat :=
  let e := d.magnitude / twoTo 52
  let f := d.magnitude % twoTo 52
  if e = 0 then f else (twoTo 52 + f) * twoTo (e - 1)

def mul (a b : Double) : Double :=
  ⟨a.negative != b.negative, nearest (a.units * b.units) (twoTo 2148)⟩

def div (a b : Double) : Double :=
  ⟨a.negative != b.negative, nearest a.units b.units⟩

/-- The 64 bits of the interchange format. -/
def bits (d : Double) : Nat := if d.negative then twoTo 63 + d.magnitude else d.magnitude

theorem divEven_le {a b c : Nat} (h : a < b * c) : divEven a b ≤ c := by
  have hq : a / b < c := Nat.div_lt_of_lt_mul h
  simp only [divEven]
  split
  · exact hq
  · exact Nat.le_of_lt hq

theorem lt_twoTo_log2 (a k : Nat) : a < twoTo (a.log2 + 1 - k) * twoTo k := by
  have hl : a < 2 ^ (a.log2 + 1) := Nat.lt_log2_self
  have hp : (2 : Nat) ^ (a.log2 + 1) ≤ 2 ^ (a.log2 + 1 - k + k) :=
    Nat.pow_le_pow_right (by decide) (Nat.sub_le_iff_le_add.1 (Nat.le_refl _))
  exact Nat.lt_of_lt_of_le hl (Nat.le_trans hp (Nat.le_of_eq (Nat.pow_add ..)))

theorem log2_mul_twoTo_le {n e : Nat} (h : n < twoTo e) (k : Nat) :
    (n * twoTo k).log2 ≤ e + k := by
  by_cases h0 : n * twoTo k = 0
  · rw [h0, Nat.log2_zero]
    exact Nat.zero_le _
  · refine Nat.le_of_lt ((Nat.log2_lt h0).2 ?_)
    rw [Nat.pow_add]
    exact Nat.mul_lt_mul_of_pos_right h (Nat.two_pow_pos _)

theorem nearest_lt {n : Nat} (h : n < twoTo 64) : nearest n 1 < infinite := by
  have hl := log2_mul_twoTo_le h 1074
  have hd := divEven_le (lt_twoTo_log2 (n * twoTo 1074) 53)
  have hk : ((n * twoTo 1074).log2 + 1 - 53) * twoTo 52 ≤ 1086 * twoTo 52 :=
    Nat.mul_le_mul_right _ (Nat.sub_le_of_le_add (Nat.succ_le_succ hl))
  have hi : 1086 * twoTo 52 + twoTo 53 < infinite := by decide
  simp only [nearest, Nat.div_one, Nat.one_mul]
  exact Nat.lt_of_le_of_lt (Nat.min_le_left _ _)
    (Nat.lt_of_le_of_lt (Nat.add_le_add hk hd) hi)

theorem isFinite_ofInt {i : Int} (h : -(twoTo 63 : Int) ≤ i ∧ i < twoTo 64) :
    (ofInt i).isFinite = true := by
  have hh : twoTo 63 < twoTo 64 := by decide
  exact decide_eq_true (nearest_lt (by omega))

end Double

end StorageDriver
