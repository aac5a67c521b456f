import Mathlib.Data.List.Forall2
import StorageDriver.Json.Codec
import StorageDriver.Proofs.Tables

namespace StorageDriver

namespace Json

mutual

/-- Each key stands once, a whole number fits 64 bits with or without a sign, and a double is a
number. -/
def Proper : Json → Prop
  | .number (.int i) => -(twoTo 63 : Int) ≤ i ∧ i < twoTo 64
  | .number (.float d) => d.isFinite = true
  | .array items => ProperItems items
  | .object members => (members.map (·.1)).Nodup ∧ ProperMembers members
  | _ => True

def ProperItems : List Json → Prop
  | [] => True
  | j :: js => j.Proper ∧ ProperItems js

def ProperMembers : List (String × Json) → Prop
  | [] => True
  | (_, j) :: ms => j.Proper ∧ ProperMembers ms

end

theorem ProperMembers.mem {ms : List (String × Json)} (h : ProperMembers ms) {p : String × Json}
    (hp : p ∈ ms) : p.2.Proper := by
  induction ms with
  | nil => cases hp
  | cons q ms ih =>
    obtain rfl | hp := List.mem_cons.1 hp
    · exact h.1
    · exact ih h.2 hp

theorem bind_eq_ok {α β : Type} {x : Except Fault α} {f : α → Except Fault β} {b : β} :
    x >>= f = .ok b ↔ ∃ a, x = .ok a ∧ f a = .ok b := by
  cases x with
  | ok a => exact ⟨fun h => ⟨a, rfl, h⟩, fun ⟨_, ha, h⟩ => Except.ok.inj ha ▸ h⟩
  | error e => exact ⟨nofun, fun ⟨_, ha, _⟩ => nomatch ha⟩

namespace Reading

theorem closedOr_eq_ok {α : Type} {closed : Bool} {a b : α} :
    closedOr closed a = .ok b ↔ closed = true ∧ a = b := by
  cases closed <;> simp [closedOr]

mutual

theorem content_mono {r : Reading} {j : Json} {n m : Nat} (h : r.content n = .ok j) (hm : n ≤ m) :
    r.content m = .ok j := by
  match r, n, m with
  | .null, _, _ | .bool _, _, _ | .number _, _, _ | .string _, _, _ => simpa [content] using h
  | .vast, _, _ | .lone, _, _ | .broken, _, _ => simp [content] at h
  | .array items closed, 0, _ | .object members closed, 0, _ => simp [content] at h
  | .array items closed, n + 1, m + 1 =>
    simp only [content, bind_eq_ok] at h ⊢
    obtain ⟨js, hj, hc⟩ := h
    exact ⟨js, contentItems_mono hj (Nat.le_of_succ_le_succ hm), hc⟩
  | .object members closed, n + 1, m + 1 =>
    simp only [content, bind_eq_ok] at h ⊢
    obtain ⟨ms, hj, hc⟩ := h
    exact ⟨ms, contentMembers_mono hj (Nat.le_of_succ_le_succ hm), hc⟩

theorem contentItems_mono {rs : List Reading} {js : List Json} {n m : Nat}
    (h : contentItems n rs = .ok js) (hm : n ≤ m) : contentItems m rs = .ok js := by
  match rs with
  | [] => simpa [contentItems] using h
  | r :: rs =>
    simp only [contentItems, bind_eq_ok] at h ⊢
    obtain ⟨j, hj, js, hs, he⟩ := h
    exact ⟨j, content_mono hj hm, js, contentItems_mono hs hm, he⟩

theorem contentMembers_mono {rs : List (Reading × Reading)} {seen ms : Table Json} {n m : Nat}
    (h : contentMembers n seen rs = .ok ms) (hm : n ≤ m) : contentMembers m seen rs = .ok ms := by
  match rs with
  | [] => simpa [contentMembers] using h
  | (k, r) :: rs =>
    simp only [contentMembers, bind_eq_ok] at h ⊢
    obtain ⟨key, hk, j, hj, hs⟩ := h
    exact ⟨key, hk, j, content_mono hj hm, contentMembers_mono hs hm⟩

end

mutual

theorem content_ofJson {j j' : Json} {n : Nat} (hp : j.Proper)
    (h : (ofJson j).content n = .ok j') : j' = j := by
  match j, n with
  | .null, _ | .bool _, _ | .number _, _ | .string _, _ =>
    simp only [ofJson, content] at h
    exact (Except.ok.inj h).symm
  | .array items, 0 | .object members, 0 => simp [ofJson, content] at h
  | .array items, n + 1 =>
    simp only [ofJson, content, bind_eq_ok, closedOr_eq_ok] at h
    obtain ⟨js, hj, -, rfl⟩ := h
    rw [contentItems_ofItems hp hj]
  | .object members, n + 1 =>
    simp only [ofJson, content, bind_eq_ok, closedOr_eq_ok] at h
    obtain ⟨ms, hj, -, rfl⟩ := h
    obtain ⟨hn, hp⟩ := hp
    have he : ms = [] ++ members := contentMembers_ofMembers hn hp hj
    rw [he, List.nil_append]

theorem contentItems_ofItems {js js' : List Json} {n : Nat} (hp : ProperItems js)
    (h : contentItems n (ofItems js) = .ok js') : js' = js := by
  match js with
  | [] =>
    simp only [ofItems, contentItems] at h
    exact (Except.ok.inj h).symm
  | j :: js =>
    simp only [ofItems, contentItems, bind_eq_ok] at h
    obtain ⟨j', hj, js', hs, he⟩ := h
    obtain rfl := Except.ok.inj he
    rw [content_ofJson hp.1 hj, contentItems_ofItems hp.2 hs]

theorem contentMembers_ofMembers {seen ms ms' : Table Json} {n : Nat}
    (hn : ((seen ++ ms).map (·.1)).Nodup) (hp : ProperMembers ms)
    (h : contentMembers n seen (ofMembers ms) = .ok ms') : ms' = seen ++ ms := by
  match ms with
  | [] =>
    simp only [ofMembers, contentMembers] at h
    rw [List.append_nil]
    exact (Except.ok.inj h).symm
  | (k, j) :: ms =>
    simp only [ofMembers, contentMembers, key, bind_eq_ok] at h
    obtain ⟨key, hk, j', hj, hs⟩ := h
    obtain rfl := Except.ok.inj hk
    obtain rfl := content_ofJson hp.1 hj
    have hk : k ∉ seen.map (·.1) := fun hm => by
      rw [List.map_append, List.nodup_append] at hn
      exact hn.2.2 k hm k List.mem_cons_self rfl
    rw [Table.put_of_not_mem hk] at hs
    rw [List.append_cons] at hn
    rw [contentMembers_ofMembers hn hp.2 hs, List.append_assoc]
    rfl

end

end Reading

/-- What is read from a value is written as one that `rel` says it may become, and that is read as
the same again by whoever may open as many containers and at least `height`. -/
structure Codec.Keeps {α : Type} (c : Codec α) (rel : Json → Json → Prop) (height : Nat) :
    Prop where
  carries : ∀ {n j a}, j.Proper → c.decode n (.ofJson j) = .ok a → rel j (c.encode a)
  again : ∀ {n m j a}, j.Proper → c.decode n (.ofJson j) = .ok a → n ≤ m → height ≤ m →
    c.decode m (.ofJson (c.encode a)) = .ok a

def SameDouble : Json → Json → Prop
  | .number (.int i), y => y = .number (.float (.ofInt i))
  | x, y => y = x

def Itemwise (rel : Json → Json → Prop) : Json → Json → Prop
  | .array xs, .array ys => List.Forall₂ rel xs ys
  | _, _ => False

namespace Codec

variable {α : Type}

theorem keeps_string : string.Keeps Eq 0 where
  carries {n j s} _ h := by
    cases j with
    | string t => exact congrArg Json.string (Except.ok.inj h)
    | _ => cases h
  again _ _ _ _ := rfl

theorem keeps_bool : bool.Keeps Eq 0 where
  carries {n j b} _ h := by
    cases j with
    | bool t => exact congrArg Json.bool (Except.ok.inj h)
    | _ => cases h
  again _ _ _ _ := rfl

theorem natural_decoded {bound n k : Nat} {j : Json}
    (h : (natural bound).decode n (.ofJson j) = .ok k) : j = .number (.int k) ∧ k < bound := by
  cases j with
  | number x =>
    cases x with
    | int i =>
      simp only [natural, Reading.ofJson] at h
      split at h
      · obtain rfl := Except.ok.inj h
        rename_i hi
        exact ⟨by rw [Int.toNat_of_nonneg hi.1], (Int.toNat_lt hi.1).2 hi.2⟩
      · cases h
    | float d => cases h
  | _ => cases h

theorem keeps_natural (bound : Nat) : (natural bound).Keeps Eq 0 := by
  refine ⟨fun _ h => (natural_decoded h).1, fun {n m j k} _ h _ _ => ?_⟩
  have hk : (0 : Int) ≤ k ∧ (k : Int) < bound :=
    ⟨Int.natCast_nonneg k, Int.ofNat_lt.2 (natural_decoded h).2⟩
  simp only [natural, Reading.ofJson, if_pos hk, Int.toNat_natCast]

theorem double_decoded {n : Nat} {j : Json} {d : Double} (hp : j.Proper)
    (h : double.decode n (.ofJson j) = .ok d) :
    d.isFinite = true ∧ SameDouble j (.number (.float d)) := by
  cases j with
  | number x =>
    cases x with
    | int i =>
      obtain rfl : .ofInt i = d := Except.ok.inj h
      exact ⟨Double.isFinite_ofInt hp, rfl⟩
    | float e =>
      obtain rfl : e = d := Except.ok.inj h
      exact ⟨hp, rfl⟩
  | _ => cases h

theorem keeps_double : double.Keeps SameDouble 0 := by
  refine ⟨fun hp h => ?_, fun hp h _ _ => ?_⟩ <;> obtain ⟨hf, hs⟩ := double_decoded hp h
  · simpa only [double, if_pos hf] using hs
  · simp only [double, if_pos hf, Reading.ofJson]

theorem list_decoded {c : Codec α} {n : Nat} {j : Json} {as : List α}
    (h : c.list.decode n (.ofJson j) = .ok as) :
    ∃ k js, n = k + 1 ∧ j = .array js ∧ decodeItems c k (Reading.ofItems js) = .ok as := by
  cases j with
  | array js =>
    cases n with
    | zero => cases h
    | succ k =>
      simp only [list, Reading.ofJson, bind_eq_ok, Reading.closedOr_eq_ok] at h
      obtain ⟨_, hs, -, rfl⟩ := h
      exact ⟨k, js, rfl, rfl, hs⟩
  | _ => cases n <;> cases h

theorem keeps_list {c : Codec α} {rel : Json → Json → Prop} {height : Nat}
    (hc : c.Keeps rel height) : c.list.Keeps (Itemwise rel) (height + 1) := by
  have items : ∀ {n js as}, ProperItems js → decodeItems c n (Reading.ofItems js) = .ok as →
      List.Forall₂ rel js (as.map c.encode) ∧ ∀ m, n ≤ m → height ≤ m →
        decodeItems c m (Reading.ofItems (as.map c.encode)) = .ok as := by
    intro n js
    induction js with
    | nil =>
      intro as _ h
      obtain rfl : [] = as := Except.ok.inj h
      exact ⟨.nil, fun _ _ _ => rfl⟩
    | cons j js ih =>
      intro as hp h
      simp only [Reading.ofItems, decodeItems, bind_eq_ok] at h
      obtain ⟨a, ha, as', hs, he⟩ := h
      obtain rfl : a :: as' = as := Except.ok.inj he
      obtain ⟨hr, hm⟩ := ih hp.2 hs
      refine ⟨.cons (hc.carries hp.1 ha) hr, fun m hn hh => ?_⟩
      simp only [List.map_cons, Reading.ofItems, decodeItems, hc.again hp.1 ha hn hh, hm m hn hh]
      rfl
  refine ⟨fun hp h => ?_, fun {n m j as} hp h hn hh => ?_⟩ <;>
    obtain ⟨k, js, rfl, rfl, hs⟩ := list_decoded h
  · exact (items hp hs).1
  · cases m with
    | zero => cases hh
    | succ m =>
      have hm := (items hp hs).2 m (Nat.le_of_succ_le_succ hn) (Nat.le_of_succ_le_succ hh)
      simp only [list, Reading.ofJson, hm]
      rfl

end Codec

end Json

end StorageDriver
