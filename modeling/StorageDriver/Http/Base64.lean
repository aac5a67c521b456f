namespace StorageDriver.Http.Base64

def digit (n : Nat) : Char :=
  if n < 26 then Char.ofNat (n + 65)
  else if n < 52 then Char.ofNat (n - 26 + 97)
  else if n < 62 then Char.ofNat (n - 52 + 48)
  else if n = 62 then '+'
  else '/'

def encode : List UInt8 → List Char
  | [] => []
  | [a] =>
    let n := a.toNat * 16
    [digit (n / 64), digit (n % 64), '=', '=']
  | [a, b] =>
    let n := (a.toNat * 256 + b.toNat) * 4
    [digit (n / 4096), digit (n / 64 % 64), digit (n % 64), '=']
  | a :: b :: c :: rest =>
    let n := (a.toNat * 256 + b.toNat) * 256 + c.toNat
    digit (n / 262144) :: digit (n / 4096 % 64) :: digit (n / 64 % 64) :: digit (n % 64) ::
      encode rest

theorem digit_printable (n : Nat) : ' ' ≤ digit n ∧ digit n ≠ '\x7f' := by
  have small : ∀ n < 64, ' ' ≤ digit n ∧ digit n ≠ '\x7f' := by decide
  by_cases hn : n < 64
  · exact small n hn
  · have he : digit n = '/' := by
      unfold digit
      rw [if_neg (by omega), if_neg (by omega), if_neg (by omega), if_neg (by omega)]
    rw [he]
    decide

theorem encode_printable (bs : List UInt8) : ∀ c ∈ encode bs, ' ' ≤ c ∧ c ≠ '\x7f' := by
  have pad : ' ' ≤ '=' ∧ '=' ≠ '\x7f' := by decide
  fun_induction encode bs with
  | case1 => exact fun c hc => absurd hc List.not_mem_nil
  | case2 a n =>
    simp only [List.forall_mem_cons]
    exact ⟨digit_printable _, digit_printable _, pad, pad, nofun⟩
  | case3 a b n =>
    simp only [List.forall_mem_cons]
    exact ⟨digit_printable _, digit_printable _, digit_printable _, pad, nofun⟩
  | case4 a b c rest n ih =>
    simp only [List.forall_mem_cons]
    exact ⟨digit_printable _, digit_printable _, digit_printable _, digit_printable _, ih⟩

end StorageDriver.Http.Base64
