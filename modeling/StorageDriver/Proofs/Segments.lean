import Mathlib.Data.List.Basic
import StorageDriver.Proofs.Escapes

namespace StorageDriver.Http.Target

def isSlash (c : Char) : Bool := c = '/' || c = '\\'

def extent : List (List Char) → Nat
  | [] => 0
  | s :: ss => 1 + size s + extent ss

theorem extent_append (ss ts : List (List Char)) : extent (ss ++ ts) = extent ss + extent ts := by
  induction ss with
  | nil => exact (Nat.zero_add _).symm
  | cons s ss ih =>
    rw [List.cons_append, extent, extent, ih]
    omega

theorem extent_reverse (ss : List (List Char)) : extent ss.reverse = extent ss := by
  induction ss with
  | nil => rfl
  | cons s ss ih =>
    rw [List.reverse_cons, extent_append, ih, extent, extent, extent, Nat.add_zero, Nat.add_comm]

section

variable {c : Char} {s cs : List Char} {ss : List (List Char)}

theorem splitSlashes_eq (cs : List Char) : splitSlashes cs = cs.splitOnP isSlash := by
  induction cs with
  | nil => rfl
  | cons c cs ih =>
    rw [splitSlashes, List.splitOnP_cons_eq_if_modifyHead, ← ih]
    have hs : splitSlashes cs ≠ [] := by
      rw [ih]
      exact List.splitOnP_ne_nil isSlash cs
    obtain ⟨t, ts, ht⟩ := List.exists_cons_of_ne_nil hs
    rw [ht]
    simp only [isSlash, Bool.or_eq_true, decide_eq_true_eq, List.modifyHead_cons]

theorem length_splitSlashes (cs : List Char) : 1 ≤ (splitSlashes cs).length := by
  rw [splitSlashes_eq]
  exact List.length_pos_of_ne_nil (List.splitOnP_ne_nil isSlash cs)

theorem splitSlashes_cons_slash (h : isSlash c = true) :
    splitSlashes (c :: cs) = [] :: splitSlashes cs := by
  rw [splitSlashes_eq, splitSlashes_eq, List.splitOnP_cons_eq_if_modifyHead, if_pos h]

theorem splitSlashes_cons (cs : List Char) (h : isSlash c = false) :
    ∃ t ts, splitSlashes cs = t :: ts ∧ splitSlashes (c :: cs) = (c :: t) :: ts := by
  obtain ⟨t, ts, ht⟩ := List.exists_cons_of_ne_nil (List.splitOnP_ne_nil isSlash cs)
  refine ⟨t, ts, (splitSlashes_eq cs).trans ht, ?_⟩
  rw [splitSlashes_eq, List.splitOnP_cons_eq_if_modifyHead, h, ht]
  rfl

theorem splitSlashes_of_slashless (h : ∀ c ∈ cs, isSlash c = false) : splitSlashes cs = [cs] := by
  rw [splitSlashes_eq]
  exact List.splitOnP_eq_singleton h

theorem slashless_of_mem (h : s ∈ splitSlashes cs) : ∀ c ∈ s, isSlash c = false := by
  induction cs generalizing s with
  | nil =>
    obtain rfl := List.mem_singleton.1 h
    exact nofun
  | cons c cs ih =>
    cases hc : isSlash c with
    | true =>
      rw [splitSlashes_cons_slash hc] at h
      obtain rfl | h := List.mem_cons.1 h
      · exact nofun
      · exact ih h
    | false =>
      obtain ⟨t, ts, ht, hs⟩ := splitSlashes_cons cs hc
      rw [ht] at ih
      rw [hs] at h
      obtain rfl | h := List.mem_cons.1 h
      · exact List.forall_mem_cons.2 ⟨hc, ih List.mem_cons_self⟩
      · exact ih (List.mem_cons_of_mem _ h)

theorem extent_splitSlashes (cs : List Char) : extent (splitSlashes cs) = 1 + size cs := by
  induction cs with
  | nil => rfl
  | cons c cs ih =>
    cases hc : isSlash c with
    | true =>
      have one : (String.utf8EncodeChar c).length = 1 := by
        obtain rfl | rfl : c = '/' ∨ c = '\\' := by simpa [isSlash] using hc
        · rfl
        · rfl
      rw [splitSlashes_cons_slash hc, extent, ih, size_nil, size_cons, one]
    | false =>
      obtain ⟨t, ts, ht, hs⟩ := splitSlashes_cons cs hc
      rw [ht, extent] at ih
      rw [hs, extent, size_cons, size_cons]
      omega

theorem slashless_of_length (h : (splitSlashes cs).length ≤ 1) : splitSlashes cs = [cs] := by
  induction cs with
  | nil => rfl
  | cons c cs ih =>
    cases hc : isSlash c with
    | true =>
      rw [splitSlashes_cons_slash hc, List.length_cons] at h
      have hn := length_splitSlashes cs
      omega
    | false =>
      obtain ⟨t, ts, ht, hs⟩ := splitSlashes_cons cs hc
      rw [hs] at h
      rw [ht] at ih
      obtain ⟨rfl, rfl⟩ : t = cs ∧ ts = [] := by simpa using ih h
      exact hs

def join (ss : List (List Char)) : List Char := List.intercalate ['/'] ss

theorem join_cons_cons (s t : List Char) (ts : List (List Char)) :
    join (s :: t :: ts) = s ++ '/' :: join (t :: ts) := by
  rw [join, List.intercalate_cons_cons, List.append_assoc, List.singleton_append, join]

theorem forall_mem_join {p : Char → Prop} (slash : p '/') :
    (∀ c ∈ join ss, p c) ↔ ∀ s ∈ ss, ∀ c ∈ s, p c := by
  induction ss with
  | nil => exact iff_of_true nofun nofun
  | cons s ss ih =>
    cases ss with
    | nil => rw [join, List.intercalate_singleton, List.forall_mem_singleton]
    | cons t ts =>
      rw [join_cons_cons, List.forall_mem_append, List.forall_mem_cons, ih,
        List.forall_mem_cons (a := s)]
      exact and_congr_right fun _ => and_iff_right slash

theorem splitSlashes_join (h : ss ≠ []) : splitSlashes (join ss) = ss.flatMap splitSlashes := by
  induction ss with
  | nil => exact absurd rfl h
  | cons s ss ih =>
    cases ss with
    | nil => rw [join, List.intercalate_singleton, List.flatMap_singleton]
    | cons t ts =>
      rw [join_cons_cons, splitSlashes_eq, List.splitOnP_append_cons _ _ (by decide),
        ← splitSlashes_eq, ← splitSlashes_eq, ih (List.cons_ne_nil _ _)]
      exact (List.flatMap_cons ..).symm

theorem extent_eq (h : ss ≠ []) : extent ss = 1 + size (join ss) := by
  rw [← extent_splitSlashes, splitSlashes_join h]
  clear h
  induction ss with
  | nil => rfl
  | cons s ss ih => rw [extent, List.flatMap_cons, extent_append, extent_splitSlashes, ih]

theorem slashless_of_join (h : (ss.flatMap splitSlashes).length ≤ ss.length) :
    ∀ s ∈ ss, splitSlashes s = [s] := by
  have least : ∀ ts : List (List Char), ts.length ≤ (ts.flatMap splitSlashes).length := by
    intro ts
    induction ts with
    | nil => exact Nat.le_refl _
    | cons t ts ih =>
      have hn := length_splitSlashes t
      rw [List.flatMap_cons, List.length_append, List.length_cons]
      omega
  induction ss with
  | nil => exact nofun
  | cons s ss ih =>
    have hs := length_splitSlashes s
    have hl := least ss
    rw [List.flatMap_cons, List.length_append, List.length_cons] at h
    exact List.forall_mem_cons.2 ⟨slashless_of_length (by omega), ih (by omega)⟩

theorem splitSlashes_append (s : List Char) (h : s.all (!isSlash ·) = true) (cs : List Char) :
    splitSlashes (s ++ '/' :: cs) = s :: splitSlashes cs := by
  rw [splitSlashes_eq, splitSlashes_eq]
  exact List.splitOnP_append_cons_of_forall_mem (by simpa using h) '/' (by decide) cs

end

section

variable {done ss : List (List Char)} {s : List Char}

theorem resolve_of_dotless (h : ∀ s ∈ ss, isDot s = false ∧ isDoubleDot s = false) :
    resolve done ss = done.reverse ++ ss := by
  fun_induction resolve done ss with
  | case1 done => rw [List.append_nil]
  | case2 done s =>
    obtain ⟨hd, hb⟩ := h s (List.mem_singleton_self s)
    rw [hb, hd, if_neg Bool.false_ne_true, if_neg Bool.false_ne_true, List.reverse_cons]
  | case3 done s ss hs ih =>
    obtain ⟨hd, hb⟩ := h s List.mem_cons_self
    rw [hb, hd, if_neg Bool.false_ne_true, if_neg Bool.false_ne_true] at ih
    rw [hb, hd, if_neg Bool.false_ne_true, if_neg Bool.false_ne_true,
      ih fun t ht => h t (List.mem_cons_of_mem _ ht), List.reverse_cons, List.append_assoc,
      List.singleton_append]

theorem extent_tail (ss : List (List Char)) : extent ss.tail ≤ extent ss := by
  cases ss with
  | nil => exact Nat.le_refl _
  | cons s ss =>
    rw [extent]
    exact Nat.le_add_left ..

theorem size_of_dots (h : isDot s = true ∨ isDoubleDot s = true) : 0 < size s := by
  have hs : s ≠ [] := by
    rintro rfl
    revert h
    decide
  exact Nat.lt_of_lt_of_le (List.length_pos_of_ne_nil hs) (length_le_size s)

theorem extent_resolve (done ss : List (List Char)) :
    (∀ s ∈ ss, isDot s = false ∧ isDoubleDot s = false) ∨
      extent (resolve done ss) < extent done + extent ss := by
  fun_induction resolve done ss with
  | case1 done => exact .inl nofun
  | case2 done s =>
    have ht := extent_tail done
    rw [extent_reverse, extent, extent]
    split
    · have hs := size_of_dots (.inr ‹_›)
      rw [extent, size_nil]
      exact .inr (by omega)
    · split
      · have hs := size_of_dots (.inl ‹_›)
        rw [extent, size_nil]
        exact .inr (by omega)
      · refine .inl fun t ht => ?_
        obtain rfl := List.mem_singleton.1 ht
        exact ⟨eq_false_of_ne_true ‹_›, eq_false_of_ne_true ‹_›⟩
  | case3 done s ss hs ih =>
    have ht := extent_tail done
    obtain dotless | less := ih
    · rw [resolve_of_dotless dotless, extent_append, extent_reverse, extent]
      split
      · exact .inr (by omega)
      · split
        · exact .inr (by omega)
        · exact .inl (List.forall_mem_cons.2
            ⟨⟨eq_false_of_ne_true ‹_›, eq_false_of_ne_true ‹_›⟩, dotless⟩)
    · refine .inr (Nat.lt_of_lt_of_le less ?_)
      rw [extent]
      split
      · omega
      · split
        · omega
        · rw [extent]
          omega

theorem mem_of_mem_resolve {done : List (List Char)} (h : s ∈ resolve done ss) :
    s ∈ done ∨ s ∈ ss ∨ s = [] := by
  fun_induction resolve done ss with
  | case1 done => exact .inl (List.mem_reverse.1 h)
  | case2 done t =>
    rw [List.mem_reverse] at h
    split at h
    · obtain rfl | h := List.mem_cons.1 h
      · exact .inr (.inr rfl)
      · exact .inl (List.mem_of_mem_tail h)
    · split at h
      · obtain rfl | h := List.mem_cons.1 h
        · exact .inr (.inr rfl)
        · exact .inl h
      · obtain rfl | h := List.mem_cons.1 h
        · exact .inr (.inl List.mem_cons_self)
        · exact .inl h
  | case3 done t ss hs ih =>
    obtain hd | ht | hn := ih h
    · split at hd
      · exact .inl (List.mem_of_mem_tail hd)
      · split at hd
        · exact .inl hd
        · obtain rfl | hd := List.mem_cons.1 hd
          · exact .inr (.inl List.mem_cons_self)
          · exact .inl hd
    · exact .inr (.inl (List.mem_cons_of_mem _ ht))
    · exact .inr (.inr hn)

end

end StorageDriver.Http.Target
