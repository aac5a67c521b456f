import Mathlib.Data.List.Nodup
import StorageDriver.Proofs.Contents

namespace StorageDriver.Json

/-- A member of the records `α` and the value behind it. -/
structure Slot (α : Type) where
  Value : Type
  name : String
  needed : Bool
  write : Value → Option Json
  read : Nat → Reading → Except Fault Value
  get : α → Value
  set : α → Value → α

/-- `keep` adds an unknown member to those in `extra`. -/
structure Record (α : Type) where
  blank : α
  slots : List (Slot α)
  extra : α → Table Json
  keep : α → String → Json → α

def Kept (rel : Json → Json → Prop) (j : Json) (o : Option Json) : Prop := ∃ i, o = some i ∧ rel j i

/-- A null is left out. -/
def Shown (j : Json) (o : Option Json) : Prop := o = if j = .null then none else some j

/-- What is not in `special` stays as it is. -/
def fate (special : Table (Json → Option Json → Prop)) (k : String) : Json → Option Json → Prop :=
  (special.get? k).getD (Kept Eq)

variable {α β : Type}

namespace Slot

def field (s : Slot α) : Field α where
  name := s.name
  aliases := []
  needed := s.needed
  write a := s.write (s.get a)
  store n r a := (s.set a ·) <$> s.read n r

def plain (name : String) (needed : Bool) (c : Codec β) (get : α → β) (set : α → β → α) :
    Slot α where
  Value := β
  name := name
  needed := needed
  write b := some (c.encode b)
  read := c.decode
  get := get
  set := set

def omitted (name : String) (c : Codec β) (get : α → Option β) (set : α → Option β → α) :
    Slot α where
  Value := Option β
  name := name
  needed := false
  write b := b.map c.encode
  read := c.option.decode
  get := get
  set := set

/-- What is written of `v` is read as `v`, and `v` is left out only if a blank record has it. -/
def Returns (s : Slot α) (blank : α) (n : Nat) (v : s.Value) : Prop :=
  match s.write v with
  | some j => s.read n (.ofJson j) = .ok v
  | none => v = s.get blank

theorem Returns.read {s : Slot α} {blank : α} {n : Nat} {v : s.Value} (h : s.Returns blank n v)
    {j : Json} (hw : s.write v = some j) : s.read n (.ofJson j) = .ok v := by
  simpa only [Returns, hw] using h

theorem Returns.of_absent {s : Slot α} {blank : α} {n : Nat} {v : s.Value}
    (hw : s.write v = none) (hv : v = s.get blank) : s.Returns blank n v := by
  simpa only [Returns, hw] using hv

theorem Returns.absent {s : Slot α} {blank : α} {n : Nat} {v : s.Value} (h : s.Returns blank n v)
    (hw : s.write v = none) : v = s.get blank := by
  simpa only [Returns, hw] using h

structure Keeps (s : Slot α) (blank : α) (fate : Json → Option Json → Prop) (height : Nat) :
    Prop where
  shown : s.needed = true → ∀ v, s.write v ≠ none
  carries : ∀ {n j v}, j.Proper → s.read n (.ofJson j) = .ok v → fate j (s.write v)
  again : ∀ {n m j v}, j.Proper → s.read n (.ofJson j) = .ok v → n ≤ m → height ≤ m →
    s.Returns blank m v
  blank : ∀ {m}, height ≤ m → s.Returns blank m (s.get blank)

theorem Keeps.of_plain {name : String} {needed : Bool} {c : Codec β} {get : α → β} {set : α → β → α}
    {rel : Json → Json → Prop} {blank : α} {height height' : Nat} (hc : c.Keeps rel height')
    (hh : height' ≤ height) {i : Json} (hi : i.Proper)
    (hb : c.decode height (.ofJson i) = .ok (get blank)) :
    (plain name needed c get set).Keeps blank (Kept rel) height where
  shown _ _ := nofun
  carries hp h := ⟨_, rfl, hc.carries hp h⟩
  again hp h hn hm := hc.again hp h hn (Nat.le_trans hh hm)
  blank hm := hc.again hi hb hm (Nat.le_trans hh hm)

theorem Keeps.of_text {name : String} {needed : Bool} {get : α → String} {set : α → String → α}
    {blank : α} (hb : get blank = "") (height : Nat) :
    (plain name needed .string get set).Keeps blank (Kept Eq) height :=
  .of_plain (i := .string "") Codec.keeps_string (Nat.zero_le _) trivial
    (congrArg Except.ok hb.symm)

theorem Keeps.of_omitted {name : String} {get : α → Option String} {set : α → Option String → α}
    {blank : α} (hb : get blank = none) (height : Nat) :
    (omitted name .string get set).Keeps blank Shown height where
  shown := nofun
  carries {n j v} _ h := by
    cases j with
    | null => exact Except.ok.inj h ▸ rfl
    | string s => exact Except.ok.inj h ▸ rfl
    | _ => cases h
  again {n m j v} _ h _ _ := by
    cases v with
    | none => exact hb.symm
    | some s => rfl
  blank _ := .of_absent (congrArg (Option.map Codec.string.encode) hb) rfl

def written (ss : List (Slot α)) (a : α) : Table Json :=
  ss.filterMap fun s => (s.write (s.get a)).map (s.name, ·)

theorem mem_names_of_written {ss : List (Slot α)} {a : α} {k : String}
    (h : k ∈ (written ss a).map (·.1)) : k ∈ ss.map (·.name) := by
  obtain ⟨p, hp, rfl⟩ := List.mem_map.1 h
  obtain ⟨s, hs, hw⟩ := List.mem_filterMap.1 hp
  obtain ⟨j, -, rfl⟩ := Option.map_eq_some_iff.1 hw
  exact List.mem_map_of_mem hs

theorem nodup_written {ss : List (Slot α)} (hn : (ss.map (·.name)).Nodup) (a : α) :
    ((written ss a).map (·.1)).Nodup := by
  induction ss with
  | nil => exact List.nodup_nil
  | cons s ss ih =>
    obtain ⟨hs, hn⟩ := List.nodup_cons.1 hn
    cases hw : s.write (s.get a) with
    | none => simpa only [written, List.filterMap_cons, hw, Option.map_none] using ih hn
    | some j =>
      simp only [written, List.filterMap_cons, hw, Option.map_some, List.map_cons]
      exact List.nodup_cons.2 ⟨fun hm => hs (mem_names_of_written hm), ih hn⟩

theorem get?_written {ss : List (Slot α)} (hn : (ss.map (·.name)).Nodup) {s : Slot α}
    (hs : s ∈ ss) (a : α) : (written ss a).get? s.name = s.write (s.get a) := by
  induction ss with
  | nil => cases hs
  | cons t ss ih =>
    obtain ⟨ht, hn⟩ := List.nodup_cons.1 hn
    obtain rfl | hs := List.mem_cons.1 hs
    · cases hw : s.write (s.get a) with
      | none =>
        simp only [written, List.filterMap_cons, hw, Option.map_none]
        exact Table.get?_eq_none.2 fun hm => ht (mem_names_of_written hm)
      | some j =>
        simp only [written, List.filterMap_cons, hw, Option.map_some, Table.get?_cons, if_pos]
    · have hne : t.name ≠ s.name := fun he => ht (List.mem_map.2 ⟨s, hs, he.symm⟩)
      rw [← ih hn hs]
      cases hw : t.write (t.get a) with
      | none => simp only [written, List.filterMap_cons, hw, Option.map_none]
      | some j =>
        simp only [written, List.filterMap_cons, hw, Option.map_some, Table.get?_cons, if_neg hne]

theorem get?_written_congr {ss : List (Slot α)} (hn : (ss.map (·.name)).Nodup) {a b : α}
    {k : String} (h : ∀ s ∈ ss, s.name = k → s.get a = s.get b) :
    (written ss a).get? k = (written ss b).get? k := by
  by_cases hk : k ∈ ss.map (·.name)
  · obtain ⟨s, hs, rfl⟩ := List.mem_map.1 hk
    rw [get?_written hn hs, get?_written hn hs, h s hs rfl]
  · rw [Table.get?_eq_none.2 fun hm => hk (mem_names_of_written hm),
      Table.get?_eq_none.2 fun hm => hk (mem_names_of_written hm)]

end Slot

namespace Record

def layout (r : Record α) : Layout α where
  blank := r.blank
  fields := r.slots.map Slot.field
  rest := some (r.extra, r.keep)

def slot? (r : Record α) (key : String) : Option (Slot α) := r.slots.find? (·.name = key)

def members (r : Record α) (a : α) : Table Json := Slot.written r.slots a ++ r.extra a

/-- The members are independent of each other, and with what is kept they are all there is. -/
structure Lawful (r : Record α) : Prop where
  distinct : (r.slots.map (·.name)).Nodup
  get_set : ∀ s ∈ r.slots, ∀ a v, s.get (s.set a v) = v
  get_set_ne : ∀ s ∈ r.slots, ∀ t ∈ r.slots, s.name ≠ t.name → ∀ a v, t.get (s.set a v) = t.get a
  extra_set : ∀ s ∈ r.slots, ∀ a v, r.extra (s.set a v) = r.extra a
  get_keep : ∀ s ∈ r.slots, ∀ a k j, s.get (r.keep a k j) = s.get a
  extra_keep : ∀ a k j, r.extra (r.keep a k j) = (r.extra a).put k j
  extra_blank : r.extra r.blank = []
  ext : ∀ a b, (∀ s ∈ r.slots, s.get a = s.get b) → r.extra a = r.extra b → a = b

variable {r : Record α} {s : Slot α} {k : String} {n : Nat} {a : α}

theorem encode_eq (r : Record α) (a : α) : r.layout.codec.encode a = .object (r.members a) := by
  simp only [Layout.codec, layout, List.filterMap_map, members, Slot.written]
  rfl

theorem get?_members (hr : r.Lawful) (hs : s ∈ r.slots) {j : Json}
    (hj : s.write (s.get a) = some j) : (r.members a).get? s.name = some j := by
  rw [members, Table.get?_append, Slot.get?_written hr.distinct hs, hj]
  rfl

theorem get?_members_congr (hr : r.Lawful) {b : α} (hx : r.extra a = r.extra b)
    (h : ∀ s ∈ r.slots, s.name = k → s.get a = s.get b) :
    (r.members a).get? k = (r.members b).get? k := by
  rw [members, members, Table.get?_append, Table.get?_append,
    Slot.get?_written_congr hr.distinct h, hx]

theorem slot?_mem (h : r.slot? k = some s) : s ∈ r.slots ∧ s.name = k :=
  ⟨List.mem_of_find?_eq_some h, by simpa using List.find?_some h⟩

theorem slot?_eq_none : r.slot? k = none ↔ k ∉ r.slots.map (·.name) := by
  simp [slot?]

theorem Lawful.slot?_name (hr : r.Lawful) (hs : s ∈ r.slots) : r.slot? s.name = some s := by
  cases h : r.slot? s.name with
  | none => exact absurd (List.mem_map_of_mem hs) (slot?_eq_none.1 h)
  | some t =>
    obtain ⟨ht, he⟩ := slot?_mem h
    rw [List.inj_on_of_nodup_map hr.distinct ht hs he]

theorem find?_knows (r : Record α) (k : String) :
    r.layout.fields.find? (·.knows k) = (r.slot? k).map Slot.field := by
  simp only [layout, slot?, List.find?_map]
  have hk : ((fun f : Field α => f.knows k) ∘ Slot.field) = fun s => decide (s.name = k) :=
    funext fun s => Bool.or_false _
  rw [hk]

theorem decodeMembers_known (hs : r.slot? k = some s) (seen : List String) (x : Reading)
    (ms : List (Reading × Reading)) :
    r.layout.decodeMembers n seen a ((.string k, x) :: ms) =
      if seen.contains s.name then .error .mismatch
      else s.read n x >>= fun v => r.layout.decodeMembers n (s.name :: seen) (s.set a v) ms := by
  simp only [Layout.decodeMembers, Reading.key, find?_knows, bind, Except.bind, hs,
    Option.map_some]
  show (if seen.contains s.name then _ else _) = _
  split
  · rfl
  · simp only [Slot.field]
    cases s.read n x <;> rfl

theorem decodeMembers_unknown (hs : r.slot? k = none) (seen : List String) (x : Reading)
    (ms : List (Reading × Reading)) :
    r.layout.decodeMembers n seen a ((.string k, x) :: ms) =
      x.content n >>= fun j => r.layout.decodeMembers n seen (r.keep a k j) ms := by
  simp only [Layout.decodeMembers, Reading.key, find?_knows, bind, Except.bind, hs,
    Option.map_none]
  rfl

structure Holds (r : Record α) (n : Nat) (ms : Table Json) (seen : List String) (a : α) :
    Prop where
  seen : ∀ s ∈ r.slots, s.name ∈ seen ↔ s.name ∈ ms.map (·.1)
  known : ∀ s ∈ r.slots, ∀ j, ms.get? s.name = some j → s.read n (.ofJson j) = .ok (s.get a)
  absent : ∀ s ∈ r.slots, ms.get? s.name = none → s.get a = s.get r.blank
  unknown : ∀ p ∈ ms, r.slot? p.1 = none → (Reading.ofJson p.2).content n = .ok p.2
  extra : r.extra a = ms.filter fun p => (r.slot? p.1).isNone

namespace Holds

variable {ms : Table Json} {seen : List String} {j : Json}

theorem nil (hr : r.Lawful) (n : Nat) : r.Holds n [] [] r.blank where
  seen _ _ := Iff.rfl
  known _ _ _ h := nomatch h
  absent _ _ _ := rfl
  unknown := nofun
  extra := hr.extra_blank

theorem set (hr : r.Lawful) (h : r.Holds n ms seen a) (hs : r.slot? k = some s)
    (hk : k ∉ ms.map (·.1)) {v : s.Value} (hv : s.read n (.ofJson j) = .ok v) :
    r.Holds n (ms ++ [(k, j)]) (s.name :: seen) (s.set a v) := by
  obtain ⟨hm, rfl⟩ := slot?_mem hs
  have new : ms.get? s.name = none := Table.get?_eq_none.2 hk
  refine ⟨fun t ht => ?_, fun t ht i hi => ?_, fun t ht hi => ?_, fun p hp hn => ?_, ?_⟩
  · rw [List.mem_cons, h.seen t ht, List.map_append, List.mem_append, or_comm]
    exact or_congr_right List.mem_singleton.symm
  · rw [Table.get?_append, Table.get?_cons] at hi
    by_cases he : s.name = t.name
    · obtain rfl := List.inj_on_of_nodup_map hr.distinct hm ht he
      rw [new, if_pos rfl] at hi
      obtain rfl : j = i := Option.some.inj hi
      rw [hr.get_set s hm]
      exact hv
    · rw [if_neg he, Table.get?_nil, Option.or_none] at hi
      rw [hr.get_set_ne s hm t ht he]
      exact h.known t ht i hi
  · rw [Table.get?_append, Table.get?_cons] at hi
    by_cases he : s.name = t.name
    · rw [if_pos he] at hi
      cases ho : ms.get? t.name <;> rw [ho] at hi <;> cases hi
    · rw [if_neg he, Table.get?_nil, Option.or_none] at hi
      rw [hr.get_set_ne s hm t ht he]
      exact h.absent t ht hi
  · obtain hp | hp := List.mem_append.1 hp
    · exact h.unknown p hp hn
    · obtain rfl := List.mem_singleton.1 hp
      cases hs.symm.trans hn
  · rw [hr.extra_set s hm, h.extra, List.filter_append]
    simp [hs]

theorem keep (hr : r.Lawful) (h : r.Holds n ms seen a) (hs : r.slot? k = none)
    (hk : k ∉ ms.map (·.1)) (hj : (Reading.ofJson j).content n = .ok j) :
    r.Holds n (ms ++ [(k, j)]) seen (r.keep a k j) := by
  have other : ∀ t ∈ r.slots, k ≠ t.name := fun t ht he =>
    slot?_eq_none.1 hs (he ▸ List.mem_map_of_mem ht)
  have same : ∀ t ∈ r.slots, Table.get? (ms ++ [(k, j)]) t.name = ms.get? t.name := fun t ht => by
    rw [Table.get?_append, Table.get?_cons, if_neg (other t ht), Table.get?_nil, Option.or_none]
  refine ⟨fun t ht => ?_, fun t ht i hi => ?_, fun t ht hi => ?_, fun p hp hn => ?_, ?_⟩
  · rw [h.seen t ht, List.map_append, List.mem_append]
    exact (or_iff_left fun hm => other t ht (List.mem_singleton.1 hm).symm).symm
  · rw [hr.get_keep t ht]
    exact h.known t ht i (same t ht ▸ hi)
  · rw [hr.get_keep t ht]
    exact h.absent t ht (same t ht ▸ hi)
  · obtain hp | hp := List.mem_append.1 hp
    · exact h.unknown p hp hn
    · obtain rfl := List.mem_singleton.1 hp
      exact hj
  · have hf : k ∉ (ms.filter fun p => (r.slot? p.1).isNone).map (·.1) := fun hm => by
      obtain ⟨p, hp, rfl⟩ := List.mem_map.1 hm
      exact hk (List.mem_map_of_mem (List.mem_filter.1 hp).1)
    rw [hr.extra_keep, h.extra, Table.put_of_not_mem hf, List.filter_append]
    simp [hs]

end Holds

theorem Holds.of_decodeMembers (hr : r.Lawful) {done ms : Table Json} {seen seen' : List String}
    {b : α} (hn : ((done ++ ms).map (·.1)).Nodup)
    (hc : ∀ p ∈ ms, r.slot? p.1 = none →
      ∀ j, (Reading.ofJson p.2).content n = .ok j → j = p.2)
    (h : r.Holds n done seen a)
    (hd : r.layout.decodeMembers n seen a (Reading.ofMembers ms) = .ok (seen', b)) :
    r.Holds n (done ++ ms) seen' b := by
  induction ms generalizing done seen a with
  | nil =>
    obtain ⟨rfl, rfl⟩ := Prod.mk.inj (Except.ok.inj hd)
    exact (List.append_nil done).symm ▸ h
  | cons p ms ih =>
    obtain ⟨k, j⟩ := p
    have hk : k ∉ done.map (·.1) := fun hm => by
      rw [List.map_append, List.nodup_append] at hn
      exact hn.2.2 k hm k List.mem_cons_self rfl
    rw [List.append_cons] at hn ⊢
    have hc' := fun p hp => hc p (List.mem_cons_of_mem _ hp)
    cases hs : r.slot? k with
    | some s =>
      rw [Reading.ofMembers, decodeMembers_known hs] at hd
      split at hd
      · cases hd
      · obtain ⟨v, hv, hd⟩ := bind_eq_ok.1 hd
        exact ih hn hc' (h.set hr hs hk hv) hd
    | none =>
      rw [Reading.ofMembers, decodeMembers_unknown hs] at hd
      obtain ⟨j', hj, hd⟩ := bind_eq_ok.1 hd
      have he : j' = j := hc _ List.mem_cons_self hs j' hj
      rw [he] at hj hd
      exact ih hn hc' (h.keep hr hs hk hj) hd

theorem exists_decodeMembers {ms : Table Json} {seen : List String}
    (hn : (ms.map (·.1)).Nodup) (hs : ∀ k ∈ ms.map (·.1), k ∉ seen)
    (hk : ∀ p ∈ ms, ∀ s, r.slot? p.1 = some s → ∃ v, s.read n (.ofJson p.2) = .ok v)
    (hu : ∀ p ∈ ms, r.slot? p.1 = none → ∃ j, (Reading.ofJson p.2).content n = .ok j) :
    ∃ x, r.layout.decodeMembers n seen a (Reading.ofMembers ms) = .ok x := by
  induction ms generalizing seen a with
  | nil => exact ⟨_, rfl⟩
  | cons p ms ih =>
    obtain ⟨k, j⟩ := p
    obtain ⟨once, distinct⟩ := List.nodup_cons.1 hn
    have hk' := fun p hp => hk p (List.mem_cons_of_mem _ hp)
    have hu' := fun p hp => hu p (List.mem_cons_of_mem _ hp)
    have fresh : ∀ k ∈ ms.map (·.1), k ∉ seen := fun k hm => hs k (List.mem_cons_of_mem _ hm)
    cases hf : r.slot? k with
    | some s =>
      obtain ⟨v, hv⟩ := hk _ List.mem_cons_self s hf
      obtain ⟨-, rfl⟩ := slot?_mem hf
      rw [Reading.ofMembers, decodeMembers_known hf, hv,
        if_neg (by simpa using hs _ List.mem_cons_self)]
      refine ih distinct (fun k hm hk => ?_) hk' hu'
      obtain rfl | hk := List.mem_cons.1 hk
      · exact once hm
      · exact fresh k hm hk
    | none =>
      obtain ⟨j', hj⟩ := hu _ List.mem_cons_self hf
      rw [Reading.ofMembers, decodeMembers_unknown hf, hj]
      exact ih distinct fresh hk' hu'

theorem exists_object (hr : r.Lawful) {j : Json} (hp : j.Proper)
    (h : r.layout.codec.decode n (.ofJson j) = .ok a) :
    ∃ m ms seen, n = m + 1 ∧ j = .object ms ∧ r.Holds m ms seen a := by
  cases j with
  | object ms =>
    cases n with
    | zero => cases h
    | succ m =>
      obtain ⟨⟨seen, b⟩, hd, hb⟩ := bind_eq_ok.1 h
      have hh : r.Holds m ([] ++ ms) seen b :=
        .of_decodeMembers hr hp.1 (fun p hm _ _ hc => Reading.content_ofJson (hp.2.mem hm) hc)
          (.nil hr m) hd
      simp only [Bool.not_true, Bool.false_eq_true, if_false] at hb
      split at hb
      · cases hb
      · exact ⟨m, ms, seen, rfl, rfl, Except.ok.inj hb ▸ hh⟩
  | array items => cases n <;> cases h
  | _ => cases n <;> cases h

theorem decode_object {ms : Table Json} {seen : List String}
    (hd : r.layout.decodeMembers n [] r.blank (Reading.ofMembers ms) = .ok (seen, a))
    (hm : ∀ s ∈ r.slots, s.needed = true → s.name ∈ seen) :
    r.layout.codec.decode (n + 1) (.ofJson (.object ms)) = .ok a := by
  refine bind_eq_ok.2 ⟨(seen, a), hd, ?_⟩
  have complete : r.layout.missing seen = false := by
    simp only [Layout.missing, layout, List.any_map, List.any_eq_false]
    intro s hs
    cases hn : s.needed with
    | false => simp [Slot.field, hn]
    | true => simp [Slot.field, hm s hs hn]
  simp only [Bool.not_true, Bool.false_eq_true, if_false, complete]

section

variable {ms : Table Json} {seen : List String}

theorem Holds.get?_slot (hr : r.Lawful) (h : r.Holds n ms seen a) (hs : s ∈ r.slots) :
    (r.members a).get? s.name = s.write (s.get a) := by
  have hf := Table.get?_filter (fun k => (r.slot? k).isNone) ms s.name
  rw [members, Table.get?_append, Slot.get?_written hr.distinct hs, h.extra, hf,
    hr.slot?_name hs]
  exact Option.or_none

theorem Holds.get?_other (h : r.Holds n ms seen a) (hk : r.slot? k = none) :
    (r.members a).get? k = ms.get? k := by
  have hf := Table.get?_filter (fun k => (r.slot? k).isNone) ms k
  have hw : (Slot.written r.slots a).get? k = none :=
    Table.get?_eq_none.2 fun hm => slot?_eq_none.1 hk (Slot.mem_names_of_written hm)
  rw [members, Table.get?_append, hw, h.extra, hf, hk]
  rfl

theorem Holds.nodup_members (hr : r.Lawful) (h : r.Holds n ms seen a)
    (hn : (ms.map (·.1)).Nodup) : ((r.members a).map (·.1)).Nodup := by
  rw [members, List.map_append, h.extra]
  refine List.nodup_append.2 ⟨Slot.nodup_written hr.distinct a,
    (List.filter_sublist.map _).nodup hn, fun k hk l hl he => ?_⟩
  obtain ⟨p, hp, rfl⟩ := List.mem_map.1 hl
  have hu := Option.isNone_iff_eq_none.1 (List.mem_filter.1 hp).2
  exact slot?_eq_none.1 hu (he ▸ Slot.mem_names_of_written hk)

theorem Holds.filter_members (h : r.Holds n ms seen a) :
    ((r.members a).filter fun p => (r.slot? p.1).isNone) = r.extra a := by
  have hw : ((Slot.written r.slots a).filter fun p => (r.slot? p.1).isNone) = [] := by
    refine List.filter_eq_nil_iff.2 fun p hp hn => ?_
    exact slot?_eq_none.1 (Option.isNone_iff_eq_none.1 hn)
      (Slot.mem_names_of_written (List.mem_map_of_mem hp))
  rw [members, List.filter_append, hw, h.extra, List.filter_filter]
  simp only [Bool.and_self, List.nil_append]

end

end Record

/-- `new` has every member of `old`, with a value that it may have by `special`, and of the others
those of `defaults`. -/
structure Restores (special : Table (Json → Option Json → Prop))
    (defaults old new : Table Json) : Prop where
  once : (new.map (·.1)).Nodup
  kept : ∀ k j, old.get? k = some j → fate special k j (new.get? k)
  added : ∀ k, old.get? k = none → new.get? k = defaults.get? k

def Memberwise (rel : Table Json → Table Json → Prop) : Json → Json → Prop
  | .object old, .object new => rel old new
  | _, _ => False

namespace Record

variable {r : Record α} {special : Table (Json → Option Json → Prop)} {height n m : Nat}
  {ms : Table Json} {seen : List String} {a : α}

theorem Holds.restores (hr : r.Lawful)
    (hs : ∀ s ∈ r.slots, s.Keeps r.blank (fate special s.name) height)
    (hk : ∀ k ∈ special.map (·.1), k ∈ r.slots.map (·.name)) (hp : (Json.object ms).Proper)
    (h : r.Holds n ms seen a) : Restores special (r.members r.blank) ms (r.members a) := by
  refine ⟨h.nodup_members hr hp.1, fun k j hj => ?_, fun k hj => ?_⟩
  · cases hs' : r.slot? k with
    | some s =>
      obtain ⟨hm, rfl⟩ := slot?_mem hs'
      rw [h.get?_slot hr hm]
      exact (hs s hm).carries (hp.2.mem (Table.mem_of_get? hj)) (h.known s hm j hj)
    | none =>
      have hf : special.get? k = none :=
        Table.get?_eq_none.2 fun hm => slot?_eq_none.1 hs' (hk k hm)
      rw [h.get?_other hs', hj, fate, hf]
      exact ⟨j, rfl, rfl⟩
  · have hb := Holds.nil hr n
    cases hk : r.slot? k with
    | some s =>
      obtain ⟨hm, rfl⟩ := slot?_mem hk
      rw [h.get?_slot hr hm, hb.get?_slot hr hm, h.absent s hm hj]
    | none =>
      rw [h.get?_other hk, hb.get?_other hk, hj]
      rfl

theorem Holds.again (hr : r.Lawful)
    (hs : ∀ s ∈ r.slots, s.Keeps r.blank (fate special s.name) height)
    (hp : (Json.object ms).Proper) (h : r.Holds n ms seen a) (hn : n ≤ m) (hm : height ≤ m) :
    r.layout.codec.decode (m + 1) (.ofJson (.object (r.members a))) = .ok a := by
  have distinct := h.nodup_members hr hp.1
  have returns : ∀ s ∈ r.slots, s.Returns r.blank m (s.get a) := fun s hsl => by
    cases hj : ms.get? s.name with
    | some j =>
      exact (hs s hsl).again (hp.2.mem (Table.mem_of_get? hj)) (h.known s hsl j hj) hn hm
    | none =>
      rw [h.absent s hsl hj]
      exact (hs s hsl).blank hm
  have known : ∀ s ∈ r.slots, ∀ j, (r.members a).get? s.name = some j →
      s.read m (.ofJson j) = .ok (s.get a) := fun s hsl j hj => by
    rw [h.get?_slot hr hsl] at hj
    exact (returns s hsl).read hj
  have unknown : ∀ p ∈ r.members a, r.slot? p.1 = none →
      (Reading.ofJson p.2).content m = .ok p.2 := fun p hpm hk => by
    have hj := Table.get?_of_mem distinct hpm
    rw [h.get?_other hk] at hj
    exact Reading.content_mono (h.unknown _ (Table.mem_of_get? hj) hk) hn
  obtain ⟨⟨seen', b⟩, hd⟩ : ∃ x, r.layout.decodeMembers m [] r.blank
      (Reading.ofMembers (r.members a)) = .ok x := by
    refine exists_decodeMembers distinct (fun _ _ => List.not_mem_nil) (fun p hpm s hk => ?_)
      fun p hpm hk => ⟨_, unknown p hpm hk⟩
    obtain ⟨hsl, he⟩ := slot?_mem hk
    exact ⟨_, known s hsl p.2 (he ▸ Table.get?_of_mem distinct hpm)⟩
  have hb : r.Holds m ([] ++ r.members a) seen' b := by
    refine .of_decodeMembers hr distinct (fun p hpm hk j hj => ?_) (.nil hr m) hd
    exact Except.ok.inj (hj.symm.trans (unknown p hpm hk))
  have he : b = a := by
    refine hr.ext _ _ (fun s hsl => ?_) (hb.extra.trans h.filter_members)
    cases hw : (r.members a).get? s.name with
    | some j => exact Except.ok.inj ((hb.known s hsl j hw).symm.trans (known s hsl j hw))
    | none =>
      rw [hb.absent s hsl hw]
      rw [h.get?_slot hr hsl] at hw
      exact ((returns s hsl).absent hw).symm
  refine decode_object (he ▸ hd) fun s hsl hneed => (hb.seen s hsl).2 ?_
  rw [List.nil_append, Table.mem_keys, h.get?_slot hr hsl, Option.isSome_iff_ne_none]
  exact (hs s hsl).shown hneed _

variable (special) in
/-- A record keeps what its slots keep, and whatever else there is. -/
theorem keeps (hr : r.Lawful)
    (hs : ∀ s ∈ r.slots, s.Keeps r.blank (fate special s.name) height)
    (hk : ∀ k ∈ special.map (·.1), k ∈ r.slots.map (·.name)) :
    r.layout.codec.Keeps (Memberwise (Restores special (r.members r.blank))) (height + 1) := by
  refine ⟨fun {n j a} hp h => ?_, fun {n m j a} hp h hn hh => ?_⟩ <;>
    obtain ⟨n, ms, seen, rfl, rfl, ha⟩ := exists_object hr hp h <;> rw [encode_eq]
  · exact ha.restores hr hs hk hp
  · cases m with
    | zero => cases hh
    | succ m => exact ha.again hr hs hp (Nat.le_of_succ_le_succ hn) (Nat.le_of_succ_le_succ hh)

end Record

end StorageDriver.Json
