import StorageDriver.Table

namespace StorageDriver.Table

variable {α : Type} {t u : Table α} {key : String} {a : α}

theorem put_put (t : Table α) (key : String) (a b : α) :
    (t.put key a).put key b = t.put key b := by
  induction t with
  | nil => simp [put]
  | cons p t ih => by_cases h : p.1 = key <;> simp [put, h, ih]

theorem put_of_get? (h : t.get? key = some a) : t.put key a = t := by
  induction t with
  | nil => cases h
  | cons p t ih =>
    rw [get?_cons] at h
    rw [put]
    split
    · rw [if_pos ‹_›] at h
      obtain rfl := Option.some.inj h
      rfl
    · rw [if_neg ‹_›] at h
      rw [ih h]

theorem mem_put {p : String × α} (h : p ∈ t.put key a) : p = (key, a) ∨ p ∈ t := by
  induction t with
  | nil => exact .inl (List.mem_singleton.1 h)
  | cons q t ih =>
    rw [put] at h
    split at h
    · obtain rfl | h := List.mem_cons.1 h
      · exact .inl (by rw [← ‹q.1 = key›])
      · exact .inr (List.mem_cons_of_mem _ h)
    · obtain rfl | h := List.mem_cons.1 h
      · exact .inr List.mem_cons_self
      · exact (ih h).imp_right (List.mem_cons_of_mem _)

theorem mem_keys : key ∈ t.map (·.1) ↔ (t.get? key).isSome = true := by
  rw [← has_eq_isSome, has, List.any_eq_true, List.mem_map]
  exact exists_congr fun p => and_congr_right fun _ => decide_eq_true_iff.symm

theorem get?_eq_none : t.get? key = none ↔ key ∉ t.map (·.1) := by
  rw [mem_keys, Option.not_isSome_iff_eq_none]

theorem mem_of_get? (h : t.get? key = some a) : (key, a) ∈ t := by
  obtain ⟨p, hp, rfl⟩ := Option.map_eq_some_iff.1 h
  have hk : p.1 = key := by simpa using List.find?_some hp
  exact hk ▸ List.mem_of_find?_eq_some hp

theorem get?_of_mem (distinct : (t.map (·.1)).Nodup) {p : String × α} (hp : p ∈ t) :
    t.get? p.1 = some p.2 := by
  induction t with
  | nil => cases hp
  | cons q t ih =>
    obtain ⟨hq, distinct⟩ := List.nodup_cons.1 distinct
    rw [get?_cons]
    obtain rfl | hp := List.mem_cons.1 hp
    · exact if_pos rfl
    · have hne : q.1 ≠ p.1 := fun he => hq (List.mem_map.2 ⟨p, hp, he.symm⟩)
      rw [if_neg hne, ih distinct hp]

theorem nodup_put (h : (t.map (·.1)).Nodup) : ((t.put key a).map (·.1)).Nodup := by
  rw [keys_put]
  split
  · exact h
  · rename_i hk
    refine List.nodup_append.2 ⟨h, List.pairwise_singleton _ _, fun x hx y hy he => hk ?_⟩
    obtain ⟨p, hp, rfl⟩ := List.mem_map.1 hx
    obtain rfl := List.mem_singleton.1 hy
    exact List.any_eq_true.2 ⟨p, hp, decide_eq_true he⟩

theorem get?_append : get? (t ++ u) key = (t.get? key).or (u.get? key) := by
  induction t with
  | nil => rfl
  | cons p t ih =>
    show get? (p :: (t ++ u)) key = _
    rw [get?_cons, get?_cons, ih]
    split <;> rfl

theorem get?_filter (q : String → Bool) (t : Table α) (key : String) :
    get? (t.filter fun p => q p.1) key = if q key then t.get? key else none := by
  induction t with
  | nil => simp
  | cons p t ih => by_cases hq : q p.1 <;> by_cases hk : p.1 = key <;> simp_all [get?_cons]

theorem put_of_not_mem (h : key ∉ t.map (·.1)) (a : α) : t.put key a = t ++ [(key, a)] := by
  induction t with
  | nil => rfl
  | cons p t ih =>
    rw [List.map_cons, List.mem_cons, not_or] at h
    rw [put, if_neg (Ne.symm h.1), ih h.2]
    rfl

theorem put_append_cons (h : key ∉ t.map (·.1)) (a b : α) :
    (t ++ (key, b) :: u).put key a = t ++ (key, a) :: u := by
  induction t with
  | nil => exact if_pos rfl
  | cons p t ih =>
    rw [List.map_cons, List.mem_cons, not_or] at h
    show put (p :: (t ++ _)) key a = _
    rw [put, if_neg (Ne.symm h.1), ih h.2]
    rfl

theorem map_put_of_get? {β : Type} {g : α → β} {b : α} (h : t.get? key = some b) (hg : g a = g b) :
    (t.put key a).map (fun p => g p.2) = t.map fun p => g p.2 := by
  induction t with
  | nil => cases h
  | cons p t ih =>
    rw [get?_cons] at h
    rw [put]
    split
    · rw [if_pos ‹_›] at h
      rw [List.map_cons, List.map_cons, hg, ← Option.some.inj h]
    · rw [if_neg ‹_›] at h
      rw [List.map_cons, List.map_cons, ih h]

theorem put_eq_map (distinct : (t.map (·.1)).Nodup) (hk : key ∈ t.map (·.1)) (a : α) :
    t.put key a = t.map fun p => (p.1, if p.1 = key then a else p.2) := by
  induction t with
  | nil => cases hk
  | cons p t ih =>
    obtain ⟨hp, distinct⟩ := List.nodup_cons.1 distinct
    rw [put, List.map_cons]
    by_cases h : p.1 = key
    · have other : ∀ q ∈ t, (q.1, if q.1 = key then a else q.2) = q := by
        intro q hq
        have hne : q.1 ≠ key := fun he => hp (List.mem_map.2 ⟨q, hq, he.trans h.symm⟩)
        rw [if_neg hne]
      rw [if_pos h, if_pos h, List.map_congr_left other, List.map_id']
    · have hk : key ∈ t.map (·.1) := (List.mem_cons.1 hk).resolve_left fun he => h he.symm
      rw [if_neg h, if_neg h, ih distinct hk]

theorem map_put_cons (distinct : (t.map (·.1)).Nodup) (hk : key ∈ t.map (·.1)) {keys : List String}
    (h : key ∉ keys) (g : String → α) :
    ((t.put key (g key)).map fun p => (p.1, if p.1 ∈ keys then g p.1 else p.2)) =
      t.map fun p => (p.1, if p.1 ∈ key :: keys then g p.1 else p.2) := by
  rw [put_eq_map distinct hk, List.map_map]
  refine List.map_congr_left fun p _ => ?_
  by_cases he : p.1 = key
  · simp [he, h]
  · simp [he]

section

variable {β : Type} (f : α → β) (t : Table α) (key : String)

theorem get?_map : get? (t.map fun p => (p.1, f p.2)) key = (t.get? key).map f := by
  induction t with
  | nil => rfl
  | cons p t ih =>
    rw [List.map_cons, get?_cons, get?_cons, ih]
    split <;> rfl

theorem map_put (a : α) :
    (t.put key a).map (fun p => (p.1, f p.2)) = put (t.map fun p => (p.1, f p.2)) key (f a) := by
  induction t with
  | nil => rfl
  | cons p t ih =>
    rw [List.map_cons, put, put]
    split
    · rfl
    · rw [List.map_cons, ih]

theorem map_erase :
    (t.erase key).map (fun p => (p.1, f p.2)) = erase (t.map fun p => (p.1, f p.2)) key := by
  rw [erase, erase, List.filter_map]
  rfl

end

end StorageDriver.Table
