import StorageDriver.Proofs.NodeLocks

namespace StorageDriver

section

variable {log fs : List Deed} {i j : Nat}

/-- Some deed of `i` comes before one of `j`. -/
def Ahead (log : List Deed) (i j : Nat) : Prop :=
  ∃ ds fs, log = ds ++ fs ∧ (∃ d ∈ ds, d.who = i) ∧ ∃ d ∈ fs, d.who = j

/-- Everything that `i` did comes before anything that `j` did. -/
def Precedes (log : List Deed) (i j : Nat) : Prop :=
  ∃ ds fs, log = ds ++ fs ∧ (∀ d ∈ ds, d.who ≠ j) ∧ ∀ d ∈ fs, d.who ≠ i

theorem Ahead.append (h : Ahead log i j) (fs : List Deed) : Ahead (log ++ fs) i j := by
  obtain ⟨as, bs, rfl, ha, d, hd, hj⟩ := h
  exact ⟨as, bs ++ fs, List.append_assoc as bs fs, ha, d, List.mem_append_left _ hd, hj⟩

theorem ahead_last (h : ∃ d ∈ log, d.who = i) (a : Action) (x : a.Answer) :
    Ahead (log ++ [⟨j, a, x⟩]) i j :=
  ⟨log, _, rfl, h, _, List.mem_singleton_self _, rfl⟩

theorem Ahead.not_precedes (h : Ahead log i j) : ¬ Precedes log j i := by
  obtain ⟨as, bs, rfl, ⟨d, hd, hi⟩, f, hf, hj⟩ := h
  rintro ⟨cs, ds, he, hc, hn⟩
  obtain ⟨es, rfl, rfl⟩ | ⟨es, rfl, rfl⟩ := List.append_eq_append_iff.1 he
  · exact hc d (List.mem_append_left _ hd) hi
  · exact hn f (List.mem_append_right _ hf) hj

def Deed.claim (i : Nat) (l : Option Nat) : Deed → Option Nat
  | ⟨j, .nodes (.claim _), k⟩ => if j = i then some k else l
  | ⟨j, .nodes (.disclaim _), _⟩ => if j = i then none else l
  | _ => l

def Deed.hold (i : Nat) (l : Option Nat) : Deed → Option Nat
  | ⟨j, .nodes (.acquire k), _⟩ => if j = i then some k else l
  | ⟨j, .nodes (.release _), _⟩ => if j = i then none else l
  | _ => l

def lockClaimed (log : List Deed) (i : Nat) : Option Nat := log.foldl (Deed.claim i) none

def lockHeld (log : List Deed) (i : Nat) : Option Nat := log.foldl (Deed.hold i) none

theorem lockClaimed_append (log : List Deed) (d : Deed) (i : Nat) :
    lockClaimed (log ++ [d]) i = d.claim i (lockClaimed log i) := by
  rw [lockClaimed, List.foldl_append]
  rfl

theorem lockHeld_append (log : List Deed) (d : Deed) (i : Nat) :
    lockHeld (log ++ [d]) i = d.hold i (lockHeld log i) := by
  rw [lockHeld, List.foldl_append]
  rfl

end

/-- The procedures one after another, with what each of them came to. -/
def inTurn {α : Type} (procs : List (Proc α)) (o : Nat → (a : Action) → a.Answer) :
    List Nat → Nodes → List α × Nodes
  | [], n => ([], n)
  | i :: is, n => match procs[i]? with
    | none => inTurn procs o is n
    | some p =>
      ((p.alone (o i) n).1 :: (inTurn procs o is (p.alone (o i) n).2).1,
        (inTurn procs o is (p.alone (o i) n).2).2)

theorem inTurn_append {α : Type} {procs : List (Proc α)} {o : Nat → (a : Action) → a.Answer}
    {i : Nat} {p : Proc α} (hp : procs[i]? = some p) (is : List Nat) (n : Nodes) :
    inTurn procs o (is ++ [i]) n =
      ((inTurn procs o is n).1 ++ [(p.alone (o i) (inTurn procs o is n).2).1],
        (p.alone (o i) (inTurn procs o is n).2).2) := by
  induction is generalizing n with
  | nil => simp [inTurn, hp]
  | cons j is ih =>
    rw [List.cons_append, inTurn, inTurn]
    cases procs[j]? with
    | none => exact ih n
    | some q =>
      simp only [ih, List.cons_append]

/-- The members are at the spots `vs` on their errands, and the log tells so. -/
structure Staged (name : String) (errands : List Errand) (c : Crowd Nodes (Except Error Unit))
    (vs : List (Errand × Spot)) : Prop where
  members : c.members = vs.map fun v => v.2.proc name v.1
  errands : vs.map (·.1) = errands
  claimed : ∀ j, lockClaimed c.log j = vs[j]?.bind (·.2.claim?)
  held : ∀ j, lockHeld c.log j = vs[j]?.bind (·.2.hold?)

section

variable {a : Action} {x : a.Answer} {i j : Nat}

theorem Deed.claim_of_ne (h : j ≠ i) (l : Option Nat) (a : Action) (x : a.Answer) :
    Deed.claim i l ⟨j, a, x⟩ = l := by
  cases a with
  | nodes op => cases op <;> simp [Deed.claim, h]
  | _ => rfl

theorem Deed.hold_of_ne (h : j ≠ i) (l : Option Nat) (a : Action) (x : a.Answer) :
    Deed.hold i l ⟨j, a, x⟩ = l := by
  cases a with
  | nodes op => cases op <;> simp [Deed.hold, h]
  | _ => rfl

theorem Deed.claim_of_isBare (h : a.isBare = true) (l : Option Nat) :
    Deed.claim i l ⟨j, a, x⟩ = l := by
  cases a with
  | nodes op => cases op <;> first | rfl | cases h
  | _ => rfl

theorem Deed.hold_of_isBare (h : a.isBare = true) (l : Option Nat) :
    Deed.hold i l ⟨j, a, x⟩ = l := by
  cases a with
  | nodes op => cases op <;> first | rfl | cases h
  | _ => rfl

variable {name : String} {o : (a : Action) → a.Answer} {e : Errand} {n m : Nodes} {s t : Spot}

theorem Turn.claim_eq (h : Turn name o e n s a x t m) (hs : s.IsCareful name e) (i : Nat) :
    Deed.claim i s.claim? ⟨i, a, x⟩ = t.claim? := by
  cases h with
  | miss | ask | acquire | retire => rfl
  | claim | disclaim => exact if_pos rfl
  | begin => exact Deed.claim_of_isBare (a := .nodes _) (e.isBare_opening name) _
  | work => exact Deed.claim_of_isBare hs.1.1 _
  | release => cases e <;> rfl

theorem Turn.hold_eq (h : Turn name o e n s a x t m) (hs : s.IsCareful name e) (i : Nat) :
    Deed.hold i s.hold? ⟨i, a, x⟩ = t.hold? := by
  cases h with
  | miss | ask | claim | retire | disclaim => rfl
  | acquire => exact if_pos rfl
  | begin => exact Deed.hold_of_isBare (a := .nodes _) (e.isBare_opening name) _
  | work => exact Deed.hold_of_isBare hs.1.1 _
  | release => cases e <;> exact if_pos rfl

end

namespace Staged

variable {name : String} {errands : List Errand} {o : Nat → (a : Action) → a.Answer}
  {c d : Crowd Nodes (Except Error Unit)} {vs : List (Errand × Spot)} {i : Nat}

/-- Every step is somebody's turn. -/
theorem turn (h : Staged name errands c vs) (hg : Guarded name c.store vs)
    (hd : c.step (Nodes.serve o) i = some d) :
    ∃ e s a x t, vs[i]? = some (e, s) ∧ Turn name (o i) e c.store s a x t d.store ∧
      d.log = c.log ++ [⟨i, a, x⟩] ∧ Staged name errands d (vs.set i (e, t)) := by
  obtain ⟨a, next, x, m, hm, hx, rfl⟩ := Crowd.step_eq_some hd
  rw [h.members, List.getElem?_map] at hm
  obtain ⟨⟨e, s⟩, hi, hp⟩ := Option.map_eq_some_iff.1 hm
  obtain ⟨t, ht, hturn⟩ := exists_turn hp hx
  have hs := hg.careful i e s hi
  have hlt := (List.getElem?_eq_some_iff.1 hi).1
  refine ⟨e, s, a, x, t, hi, hturn, rfl, ?_, ?_, fun j => ?_, fun j => ?_⟩
  · show c.members.set i (next x) = _
    rw [h.members, ht, List.map_set]
  · rw [List.map_set, ← h.errands]
    have he : (vs.map (·.1))[i]? = some e := by rw [List.getElem?_map, hi, Option.map_some]
    obtain ⟨hl, rfl⟩ := List.getElem?_eq_some_iff.1 he
    exact List.set_getElem_self hl
  · show lockClaimed (c.log ++ [⟨i, a, x⟩]) j = _
    rw [lockClaimed_append, h.claimed]
    by_cases hj : i = j
    · subst hj
      rw [hi, List.getElem?_set_self hlt]
      exact hturn.claim_eq hs i
    · rw [Deed.claim_of_ne hj, List.getElem?_set_ne hj]
  · show lockHeld (c.log ++ [⟨i, a, x⟩]) j = _
    rw [lockHeld_append, h.held]
    by_cases hj : i = j
    · subst hj
      rw [hi, List.getElem?_set_self hlt]
      exact hturn.hold_eq hs i
    · rw [Deed.hold_of_ne hj, List.getElem?_set_ne hj]

end Staged

end StorageDriver
