import StorageDriver.Http.Target
import StorageDriver.Json.Reading

namespace StorageDriver.Http.Target

/-- The byte that a text begins with an escape of. -/
def code? : List Char → Option UInt8
  | c :: a :: b :: _ =>
    if c = '%' then do
      let x ← Json.Reading.hexDigit a
      let y ← Json.Reading.hexDigit b
      some (.ofNat (16 * x + y))
    else none
  | _ => none

/-- The bytes that a segment stands for. A percent sign that begins no escape stands for itself. -/
def unescape : List Char → List UInt8
  | [] => []
  | c :: a :: b :: cs =>
    match code? (c :: a :: b :: cs) with
    | some x => x :: unescape cs
    | none => String.utf8EncodeChar c ++ unescape (a :: b :: cs)
  | c :: cs => String.utf8EncodeChar c ++ unescape cs

def hasEscape : List Char → Bool
  | [] => false
  | c :: cs => (code? (c :: cs)).isSome || hasEscape cs

def size (cs : List Char) : Nat := (cs.flatMap String.utf8EncodeChar).length

@[simp] theorem size_nil : size [] = 0 := rfl

@[simp] theorem size_cons (c : Char) (cs : List Char) :
    size (c :: cs) = (String.utf8EncodeChar c).length + size cs := by
  rw [size, List.flatMap_cons, List.length_append, size]

theorem size_append (as bs : List Char) : size (as ++ bs) = size as + size bs := by
  rw [size, List.flatMap_append, List.length_append, size, size]

theorem length_le_size (cs : List Char) : cs.length ≤ size cs := by
  induction cs with
  | nil => exact Nat.le_refl _
  | cons c cs ih =>
    have hc : 0 < (String.utf8EncodeChar c).length := by
      rw [String.length_utf8EncodeChar]
      exact c.utf8Size_pos
    rw [size_cons, List.length_cons]
    omega

section

variable {a b c : Char} {cs : List Char}

theorem unescape_of_code {x : UInt8} (h : code? (c :: a :: b :: cs) = some x) :
    unescape (c :: a :: b :: cs) = x :: unescape cs := by
  rw [unescape, h]

theorem unescape_of_no_code (h : code? (c :: cs) = none) :
    unescape (c :: cs) = String.utf8EncodeChar c ++ unescape cs := by
  match cs with
  | [] | [a] => rfl
  | a :: b :: cs => rw [unescape, h]

theorem value_digit : ∀ n < 16, Json.Reading.hexDigit (Target.hexDigit n) = some n := by decide

theorem unescape_escapeByte (x : UInt8) (cs : List Char) :
    unescape (escapeByte x ++ cs) = x :: unescape cs := by
  have hx : x.toNat < 256 := x.toNat_lt
  refine unescape_of_code ?_
  rw [code?, if_pos rfl, value_digit _ (by omega), value_digit _ (by omega)]
  show some (UInt8.ofNat (16 * (x.toNat / 16) + x.toNat % 16)) = some x
  rw [Nat.div_add_mod, UInt8.ofNat_toNat]

theorem unescape_escapeBytes (xs : List UInt8) (cs : List Char) :
    unescape (xs.flatMap escapeByte ++ cs) = xs ++ unescape cs := by
  induction xs with
  | nil => rfl
  | cons x xs ih =>
    rw [List.flatMap_cons, List.append_assoc, unescape_escapeByte, ih, List.cons_append]

theorem lt_of_digit {x : Nat} (h : Json.Reading.hexDigit c = some x) : c.toNat < 128 := by
  unfold Json.Reading.hexDigit at h
  split at h
  · rename_i hd
    have hd : 48 ≤ c.val ∧ c.val ≤ 57 := by simpa [Char.isDigit] using hd
    exact Nat.lt_of_le_of_lt (UInt32.le_iff_toNat_le.1 hd.2) (by decide)
  · split at h
    · rename_i hd
      exact Nat.lt_of_le_of_lt hd.2 (by decide)
    · split at h
      · rename_i hd
        exact Nat.lt_of_le_of_lt hd.2 (by decide)
      · cases h

theorem kept_of_digit {x : Nat} (h : Json.Reading.hexDigit c = some x) : keptInPath c = true := by
  have all : ∀ n < 128, (Json.Reading.hexDigit (Char.ofNat n)).isSome →
      keptInPath (Char.ofNat n) := by
    decide
  have hc := all c.toNat (lt_of_digit h)
  rw [Char.ofNat_toNat, h] at hc
  exact hc rfl

theorem escape_of_digit {x : Nat} (h : Json.Reading.hexDigit c = some x) :
    escape keptInPath c = [c] := by
  rw [escape, if_pos (kept_of_digit h)]

theorem escape_of_no_digit (h : Json.Reading.hexDigit c = none) :
    ∃ d ds, escape keptInPath c = d :: ds ∧ Json.Reading.hexDigit d = none := by
  rw [escape]
  split
  · exact ⟨c, [], rfl, h⟩
  · have hn : String.utf8EncodeChar c ≠ [] := by
      intro hn
      have hs := c.utf8Size_pos
      rw [← String.length_utf8EncodeChar, hn] at hs
      exact absurd hs (by decide)
    obtain ⟨x, xs, hx⟩ := List.exists_cons_of_ne_nil hn
    rw [hx, List.flatMap_cons]
    exact ⟨'%', _, rfl, by decide⟩

theorem code_of_no_digit (h : Json.Reading.hexDigit a = none) : code? (c :: a :: cs) = none := by
  match cs with
  | [] => rfl
  | b :: cs =>
    rw [code?, h]
    split <;> rfl

theorem code_of_no_second (h : Json.Reading.hexDigit b = none) :
    code? (c :: a :: b :: cs) = none := by
  rw [code?, h]
  split
  · cases Json.Reading.hexDigit a <;> rfl
  · rfl

def escaped (cs : List Char) : List Char := cs.flatMap (escape keptInPath)

@[simp] theorem escaped_cons (c : Char) (cs : List Char) :
    escaped (c :: cs) = escape keptInPath c ++ escaped cs :=
  List.flatMap_cons ..

theorem code_escaped (c : Char) (cs : List Char) : code? (c :: escaped cs) = code? (c :: cs) := by
  match cs with
  | [] => rfl
  | a :: cs =>
    rw [escaped_cons]
    cases ha : Json.Reading.hexDigit a with
    | none =>
      obtain ⟨d, ds, he, hd⟩ := escape_of_no_digit ha
      rw [he, List.cons_append, code_of_no_digit hd, code_of_no_digit ha]
    | some x =>
      rw [escape_of_digit ha, List.singleton_append]
      match cs with
      | [] => rfl
      | b :: cs =>
        rw [escaped_cons]
        cases hb : Json.Reading.hexDigit b with
        | none =>
          obtain ⟨d, ds, he, hd⟩ := escape_of_no_digit hb
          rw [he, List.cons_append, code_of_no_second hd, code_of_no_second hb]
        | some y => rw [escape_of_digit hb, List.singleton_append, code?, code?]

theorem exists_of_code {x : UInt8} (h : code? (c :: cs) = some x) :
    ∃ a b ds, c = '%' ∧ cs = a :: b :: ds ∧ (Json.Reading.hexDigit a).isSome ∧
      (Json.Reading.hexDigit b).isSome := by
  match cs with
  | [] | [a] => cases h
  | a :: b :: cs =>
    have ha : (Json.Reading.hexDigit a).isSome := by
      cases ha : Json.Reading.hexDigit a with
      | none => exact nomatch (code_of_no_digit ha).symm.trans h
      | some x => rfl
    have hb : (Json.Reading.hexDigit b).isSome := by
      cases hb : Json.Reading.hexDigit b with
      | none => exact nomatch (code_of_no_second hb).symm.trans h
      | some x => rfl
    rw [code?] at h
    split at h
    · exact ⟨a, b, cs, ‹_›, rfl, ha, hb⟩
    · cases h

theorem unescape_escaped_cons (h : code? (c :: cs) = none) :
    unescape (escaped (c :: cs)) = String.utf8EncodeChar c ++ unescape (escaped cs) := by
  rw [escaped_cons, escape]
  split
  · rw [List.singleton_append, unescape_of_no_code ((code_escaped c cs).trans h)]
  · rw [unescape_escapeBytes]

/-- A segment stands for the same however it is written. -/
theorem unescape_escaped (cs : List Char) : unescape (escaped cs) = unescape cs := by
  fun_induction unescape cs with
  | case1 => rfl
  | case2 c a b cs x h ih =>
    obtain ⟨_, _, _, rfl, he, ha, hb⟩ := exists_of_code h
    cases he
    obtain ⟨y, ha⟩ := Option.isSome_iff_exists.1 ha
    obtain ⟨z, hb⟩ := Option.isSome_iff_exists.1 hb
    have percent : escape keptInPath '%' = ['%'] := by decide
    rw [escaped_cons, escaped_cons, escaped_cons, percent, escape_of_digit ha, escape_of_digit hb]
    show unescape ('%' :: a :: b :: escaped cs) = x :: unescape cs
    rw [unescape_of_code (show code? ('%' :: a :: b :: escaped cs) = some x from h), ih]
  | case3 c a b cs h ih => rw [unescape_escaped_cons h, ih]
  | case4 c cs short ih =>
    have h : code? (c :: cs) = none := by
      match cs with
      | [] | [a] => rfl
      | a :: b :: cs => exact absurd rfl (short a b cs)
    rw [unescape_escaped_cons h, ih]

theorem unescape_of_plain (h : hasEscape cs = false) :
    unescape cs = cs.flatMap String.utf8EncodeChar := by
  induction cs with
  | nil => rfl
  | cons c cs ih =>
    rw [hasEscape, Bool.or_eq_false_iff] at h
    rw [unescape_of_no_code (Option.not_isSome_iff_eq_none.1 (by simp [h.1])), ih h.2,
      List.flatMap_cons]

theorem length_unescape (cs : List Char) :
    (unescape cs).length + (if hasEscape cs then 1 else 0) ≤ size cs := by
  fun_induction unescape cs with
  | case1 => exact Nat.le_refl _
  | case2 c a b cs x h ih =>
    have three := length_le_size [c, a, b]
    have whole : size (c :: a :: b :: cs) = size [c, a, b] + size cs := size_append [c, a, b] cs
    rw [List.length_cons]
    simp only [List.length_cons, List.length_nil] at three
    split at ih <;> split <;> omega
  | case3 c a b cs h ih =>
    have he : hasEscape (c :: a :: b :: cs) = hasEscape (a :: b :: cs) := by
      rw [hasEscape, h, Option.isSome_none, Bool.false_or]
    rw [he, List.length_append, size_cons]
    omega
  | case4 c cs short ih =>
    have he : hasEscape (c :: cs) = hasEscape cs := by
      match cs with
      | [] | [a] => rfl
      | a :: b :: cs => exact absurd rfl (short a b cs)
    rw [he, List.length_append, size_cons]
    omega

theorem of_mem_escaped (h : c ∈ escaped cs) :
    c ∈ cs ∧ keptInPath c = true ∨ c = '%' ∨ ∃ n < 16, c = Target.hexDigit n := by
  obtain ⟨d, hd, hm⟩ := List.mem_flatMap.1 h
  rw [escape] at hm
  split at hm
  · obtain rfl := List.mem_singleton.1 hm
    exact .inl ⟨hd, ‹_›⟩
  · obtain ⟨x, -, hm⟩ := List.mem_flatMap.1 hm
    have hx : x.toNat < 256 := x.toNat_lt
    simp only [escapeByte, List.mem_cons, List.not_mem_nil, or_false] at hm
    obtain hm | hm | hm := hm
    · exact .inr (.inl hm)
    · exact .inr (.inr ⟨_, by omega, hm⟩)
    · exact .inr (.inr ⟨_, by omega, hm⟩)

theorem slash_not_mem_escaped (h : '/' ∉ cs) : '/' ∉ escaped cs := by
  have digit : ∀ n < 16, '/' ≠ Target.hexDigit n := by decide
  intro hm
  obtain ⟨hc, -⟩ | hc | ⟨n, hn, hc⟩ := of_mem_escaped hm
  · exact h hc
  · exact absurd hc (by decide)
  · exact digit n hn hc

theorem size_le_of_sublist {as bs : List Char} (h : as.Sublist bs) :
    size as + bs.length ≤ size bs + as.length := by
  induction h with
  | slnil => exact Nat.le_refl _
  | cons c h ih =>
    have hc := length_le_size [c]
    rw [size_cons, size_nil] at hc
    rw [size_cons, List.length_cons]
    simp only [List.length_cons, List.length_nil] at hc
    omega
  | cons_cons c h ih =>
    rw [size_cons, size_cons, List.length_cons, List.length_cons]
    omega

theorem eq_of_bytes {cs ds : List Char}
    (h : cs.flatMap String.utf8EncodeChar = ds.flatMap String.utf8EncodeChar) : cs = ds := by
  refine String.ofList_injective (String.toByteArray_inj.1 ?_)
  rw [String.toByteArray_ofList, String.toByteArray_ofList, List.utf8Encode, List.utf8Encode, h]

end

end StorageDriver.Http.Target
