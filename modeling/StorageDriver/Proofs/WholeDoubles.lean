import StorageDriver.Number.Decimal
import Mathlib.Data.List.TakeWhile
import Mathlib.Data.Nat.Log

namespace StorageDriver

theorem twoTo_add (a b : Nat) : twoTo (a + b) = twoTo a * twoTo b := Nat.pow_add 2 a b

theorem twoTo_pos (k : Nat) : 0 < twoTo k := Nat.two_pow_pos k

namespace Double

theorem divEven_mul (a : Nat) {b : Nat} (hb : 0 < b) : divEven (a * b) b = a := by
  have hr : ¬ (b < 2 * 0 ∨ 2 * 0 = b ∧ a % 2 = 1) := by omega
  simp only [divEven, Nat.mul_mod_left, Nat.mul_div_cancel a hb]
  exact if_neg hr

section

variable {n : Nat}

theorem log2_mul_twoTo (h0 : n ≠ 0) (k : Nat) : (n * twoTo k).log2 = n.log2 + k := by
  refine (Nat.log2_eq_iff (Nat.mul_ne_zero h0 (twoTo_pos k).ne')).2 ⟨?_, ?_⟩
  · rw [Nat.pow_add]
    exact Nat.mul_le_mul_right _ (Nat.log2_self_le h0)
  · rw [Nat.add_right_comm, Nat.pow_add]
    exact Nat.mul_lt_mul_of_pos_right Nat.lt_log2_self (twoTo_pos k)

theorem significand_bounds (h0 : n ≠ 0) (h : n.log2 ≤ 52) :
    twoTo 52 ≤ n * twoTo (52 - n.log2) ∧ n * twoTo (52 - n.log2) < twoTo 53 := by
  have low : twoTo n.log2 * twoTo (52 - n.log2) ≤ n * twoTo (52 - n.log2) :=
    Nat.mul_le_mul_right _ (Nat.log2_self_le h0)
  have high : n * twoTo (52 - n.log2) < twoTo (n.log2 + 1) * twoTo (52 - n.log2) :=
    Nat.mul_lt_mul_of_pos_right Nat.lt_log2_self (twoTo_pos _)
  rw [← twoTo_add, show n.log2 + (52 - n.log2) = 52 by omega] at low
  rw [← twoTo_add, show n.log2 + 1 + (52 - n.log2) = 53 by omega] at high
  exact ⟨low, high⟩

theorem significand_mul (h : n.log2 ≤ 52) :
    n * twoTo (52 - n.log2) * twoTo (n.log2 + 1022) = n * twoTo 1074 := by
  rw [Nat.mul_assoc, ← twoTo_add, show 52 - n.log2 + (n.log2 + 1022) = 1074 by omega]

theorem magnitude_ofNat (h0 : n ≠ 0) (h : n.log2 ≤ 52) :
    (ofNat n).magnitude = (n.log2 + 1022) * twoTo 52 + n * twoTo (52 - n.log2) := by
  obtain ⟨-, high⟩ := significand_bounds h0 h
  have hk : (n * twoTo 1074).log2 + 1 - 53 = n.log2 + 1022 := by
    rw [log2_mul_twoTo h0]
    omega
  have hm : (n.log2 + 1022) * twoTo 52 ≤ 1074 * twoTo 52 := Nat.mul_le_mul_right _ (by omega)
  have hi : 1074 * twoTo 52 + twoTo 53 ≤ infinite := by decide
  show nearest n 1 = _
  simp only [nearest, Nat.div_one, Nat.one_mul]
  -- The significand has 53 bits or less, so nothing is rounded off.
  rw [hk, ← significand_mul h, divEven_mul _ (twoTo_pos _)]
  exact Nat.min_eq_left (Nat.le_trans (Nat.add_le_add hm (Nat.le_of_lt high)) hi)

end

theorem units_ofNat {n : Nat} (h : n < twoTo 53) : (ofNat n).units = n * twoTo 1074 := by
  by_cases h0 : n = 0
  · subst h0
    decide +kernel
  · have hl : n.log2 ≤ 52 := Nat.lt_succ_iff.1 ((Nat.log2_lt h0).2 h)
    obtain ⟨low, high⟩ := significand_bounds h0 hl
    rw [← significand_mul hl]
    generalize hx : n * twoTo (52 - n.log2) = x at *
    generalize hk : n.log2 + 1022 = k at *
    have hm : (ofNat n).magnitude = (k + 1) * twoTo 52 + (x - twoTo 52) := by
      rw [magnitude_ofNat h0 hl, hx, hk, Nat.succ_mul]
      omega
    have hf : x - twoTo 52 < twoTo 52 := by
      have : twoTo 53 = twoTo 52 + twoTo 52 := by decide
      omega
    have he : (ofNat n).magnitude / twoTo 52 = k + 1 := by
      rw [hm, Nat.mul_comm, Nat.mul_add_div (twoTo_pos 52), Nat.div_eq_of_lt hf, Nat.add_zero]
    have hr : (ofNat n).magnitude % twoTo 52 = x - twoTo 52 := by
      rw [hm, Nat.mul_comm, Nat.mul_add_mod, Nat.mod_eq_of_lt hf]
    simp only [units, he, hr]
    rw [if_neg (Nat.succ_ne_zero k), Nat.add_sub_cancel, Nat.add_sub_cancel' low]

theorem toLower_digit {c : Char} (h : c.isDigit = true) : c.toLower = c := by
  have low : ¬ (c.val ≥ 'A'.val ∧ c.val ≤ 'Z'.val) := by
    have h9 : c.val ≤ '9'.val := of_decide_eq_true (Bool.and_eq_true_iff.1 h).2
    exact fun ha => absurd (UInt32.le_trans ha.1 h9) (by decide)
  exact dif_neg low

theorem ofScaled_zero (n : Nat) : ofScaled false n 0 = ofNat n := by
  unfold ofScaled
  by_cases h : n = 0
  · subst h
    decide +kernel
  · rw [if_neg h, if_neg (by decide), if_pos (by decide)]
    exact congrArg ofNat (Nat.mul_one n)

section

variable {c : Char} {cs : List Char} (hd : ∀ d ∈ c :: cs, d.isDigit = true)

include hd

theorem takeSign_digits : takeSign (c :: cs) = (false, c :: cs) := by
  have hc : c.isDigit = true := hd c List.mem_cons_self
  unfold takeSign
  split
  · cases ‹c :: cs = _›
    exact absurd hc (by decide)
  · cases ‹c :: cs = _›
    exact absurd hc (by decide)
  · rfl

theorem digits_ne_word {d : Char} (hl : d.isDigit = false) (ds : List Char) :
    String.ofList ((c :: cs).map Char.toLower) ≠ String.ofList (d :: ds) := by
  have lower : (c :: cs).map Char.toLower = c :: cs :=
    (List.map_congr_left fun d hm => toLower_digit (hd d hm)).trans (List.map_id _)
  intro h
  rw [lower, String.ofList_inj] at h
  have hc := hd c List.mem_cons_self
  rw [(List.cons.inj h).1, hl] at hc
  cases hc

theorem numberOf_digits : numberOf false (c :: cs) = some (ofNat (naturalOf (c :: cs))) := by
  rw [← ofScaled_zero]
  simp only [numberOf, List.takeWhile_eq_self_iff.2 hd, List.dropWhile_eq_nil_iff.2 hd]
  simp [exponentOf]

theorem ofText_digits : ofText (c :: cs) = .ok (ofNat (naturalOf (c :: cs))) := by
  have inf := digits_ne_word hd (d := 'i') rfl ['n', 'f']
  have infinity := digits_ne_word hd (d := 'i') rfl ['n', 'f', 'i', 'n', 'i', 't', 'y']
  have nan := digits_ne_word hd (d := 'n') rfl ['a', 'n']
  unfold ofText
  rw [List.isEmpty_cons, if_neg Bool.false_ne_true, takeSign_digits hd]
  dsimp only
  rw [if_neg (not_or.2 ⟨inf, infinity⟩), if_neg nan, numberOf_digits hd]

end

theorem ofText_toString (n : Nat) : ofText (toString n).toList = .ok (ofNat n) := by
  have hn : naturalOf (Nat.toDigits 10 n) = n := Nat.ofDigitChars_ten_toDigits
  have hd : ∀ c ∈ Nat.toDigits 10 n, c.isDigit = true := fun c hc =>
    Nat.isDigit_of_mem_toDigits (by decide) (Nat.le_refl 10) hc
  have hs : (toString n).toList = Nat.toDigits 10 n := by simp
  rw [hs]
  cases hc : Nat.toDigits 10 n with
  | nil => exact absurd hc Nat.toDigits_ne_nil
  | cons c cs =>
    rw [hc] at hn hd
    rw [ofText_digits hd, hn]

end Double

end StorageDriver
