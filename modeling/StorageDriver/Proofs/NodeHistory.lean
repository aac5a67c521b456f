import StorageDriver.Proofs.NodeCallers
import StorageDriver.Proofs.NodeNeighbours

namespace StorageDriver

namespace Nodes

/-- The nodes answer for themselves, and all else is answered by `o`, which may answer differently
each time. -/
def serveAt (o : Nat → (a : Action) → a.Answer) : Crowd.Service (Nodes × Nat) := fun i a s =>
  (serve (fun _ => o s.2) i a s.1).map fun r => (r.1, r.2, s.2 + 1)

theorem uuids_apply (op : Op) (n : Nodes) : (n.apply op).2.uuids =
    match op with
    | .setUuid name uuid => n.uuids.put name uuid
    | .dropUuid name => n.uuids.erase name
    | _ => n.uuids := by
  cases op with
  | refresh uuid m =>
    simp only [apply]
    split <;> rfl
  | claim name => exact (mk.inj (bare_apply (.claim name) rfl n)).1
  | retire name => exact (mk.inj (bare_apply (.retire name) rfl n)).1
  | _ => rfl

theorem machines_apply (op : Op) (n : Nodes) : (n.apply op).2.machines =
    match op with
    | .keep uuid m => n.machines.put uuid m
    | .refresh uuid m => if n.machines.has uuid then n.machines.put uuid m else n.machines
    | .drop uuid => n.machines.erase uuid
    | _ => n.machines := by
  cases op with
  | refresh uuid m =>
    simp only [apply]
    split <;> rfl
  | claim name => exact (mk.inj (bare_apply (.claim name) rfl n)).2.1
  | retire name => exact (mk.inj (bare_apply (.retire name) rfl n)).2.1
  | _ => rfl

end Nodes

namespace Action

def change : Action → Nodes → Nodes
  | .nodes op, n => (n.apply op).2
  | _, n => n

def Answers : (a : Action) → Nodes → a.Answer → Prop
  | .nodes op, n, x => (n.apply op).1 = x
  | _, _, _ => True

end Action

theorem Nodes.serveAt_eq_some {o : Nat → (a : Action) → a.Answer} {i : Nat} {a : Action}
    {x : a.Answer} {s t : Nodes × Nat} (h : serveAt o i a s = some (x, t)) :
    a.Answers s.1 x ∧ t.1 = a.change s.1 := by
  obtain ⟨r, hr, he⟩ := Option.map_eq_some_iff.1 h
  obtain ⟨rfl, rfl⟩ := Prod.mk.inj he
  obtain ⟨-, hx, hm⟩ := serve_eq_some hr
  cases a with
  | nodes op => exact ⟨hx, hm.symm⟩
  | _ => exact ⟨trivial, hm.symm⟩

namespace Action

def Sets (name : String) (a : Action) : Prop := ∃ uuid, a = .nodes (.setUuid name uuid)

def Keeps (uuid : String) (a : Action) : Prop := ∃ m, a = .nodes (.keep uuid m)

variable {a : Action} {n : Nodes} {name uuid : String} {x : a.Answer}

theorem Tells.isSome (h : a.Tells name x) (hx : a.Answers n x) :
    (n.uuids.get? name).isSome = true := by
  cases a with
  | nodes op =>
    cases op with
    | uuid other =>
      obtain ⟨rfl, hs⟩ := h
      have hx : n.uuids.get? other = x := hx
      rwa [hx]
    | blanks =>
      obtain rfl := hx
      obtain ⟨p, hp, rfl⟩ := List.mem_map.1 h
      exact Table.mem_keys.1 (List.mem_map_of_mem (List.mem_filter.1 hp).1)
    | _ => cases h
  | _ => cases h

theorem isSome_uuids_change (h : a ≠ .nodes (.dropUuid name)) (n : Nodes) :
    ((a.change n).uuids.get? name).isSome = true ↔
      (n.uuids.get? name).isSome = true ∨ a.Sets name := by
  cases a with
  | nodes op =>
    rw [change, Nodes.uuids_apply]
    cases op with
    | setUuid other uuid => by_cases ho : other = name <;> simp [Sets, ho]
    | dropUuid other =>
      have ho : other ≠ name := fun ho => h (ho ▸ rfl)
      simp [Sets, ho]
    | _ => simp [Sets]
  | _ => simp [change, Sets]

theorem isSome_machines_change (h : a ≠ .nodes (.drop uuid)) (n : Nodes) :
    ((a.change n).machines.get? uuid).isSome = true ↔
      (n.machines.get? uuid).isSome = true ∨ a.Keeps uuid := by
  cases a with
  | nodes op =>
    rw [change, Nodes.machines_apply]
    cases op with
    | keep other m => by_cases ho : other = uuid <;> simp [Keeps, ho]
    | refresh other m =>
      simp only [Table.has_eq_isSome]
      by_cases ho : other = uuid
      · subst ho
        split <;> simp [Keeps, *]
      · split <;> simp [Keeps, ho]
    | drop other =>
      have ho : other ≠ uuid := fun ho => h (ho ▸ rfl)
      simp [Keeps, ho]
    | _ => simp [Keeps]
  | _ => simp [change, Keeps]

theorem uuids_change_ne (h : a ≠ .nodes (.setUuid name "")) (hn : n.uuids.get? name ≠ some "") :
    (a.change n).uuids.get? name ≠ some "" := by
  cases a with
  | nodes op =>
    rw [change, Nodes.uuids_apply]
    cases op with
    | setUuid other uuid =>
      rw [Table.get?_put]
      split
      · rintro ⟨⟩
        exact h (by simp [*])
      · exact hn
    | dropUuid other =>
      rw [Table.get?_erase]
      split
      · exact fun hs => nomatch hs
      · exact hn
    | _ => exact hn
  | _ => exact hn

end Action

/-- The nodes after all that was done. -/
def Nodes.replay (n : Nodes) (log : List Deed) : Nodes := log.foldl (fun n e => e.action.change n) n

section

variable {n : Nodes} {log : List Deed}

theorem Nodes.replay_append (n : Nodes) (l₁ l₂ : List Deed) :
    n.replay (l₁ ++ l₂) = (n.replay l₁).replay l₂ :=
  List.foldl_append

/-- What comes about by certain actions only is there in the end if it was there at first or one of
them was taken. -/
theorem Nodes.replay_iff {P : Nodes → Prop} {Q : Action → Prop}
    (step : ∀ e ∈ log, ∀ n, P (e.action.change n) ↔ P n ∨ Q e.action) :
    P (n.replay log) ↔ P n ∨ ∃ e ∈ log, Q e.action := by
  induction log generalizing n with
  | nil => simp [replay]
  | cons e log ih =>
    show P ((e.action.change n).replay log) ↔ _
    rw [ih fun e he => step e (List.mem_cons_of_mem _ he), step e List.mem_cons_self]
    simp [or_assoc]

theorem Nodes.replay_keeps {P : Nodes → Prop} (hn : P n)
    (step : ∀ e ∈ log, ∀ n, P n → P (e.action.change n)) : P (n.replay log) := by
  induction log generalizing n with
  | nil => exact hn
  | cons e log ih =>
    exact ih (step e List.mem_cons_self n hn) fun e he => step e (List.mem_cons_of_mem _ he)

end

/-- The nodes are as the log says, and answered all along as they were. -/
theorem Crowd.replay_follow {α : Type} {o : Nat → (a : Action) → a.Answer}
    {c d : Crowd (Nodes × Nat) α} {is : List Nat} (fresh : c.log = [])
    (h : c.follow (Nodes.serveAt o) is = some d) :
    d.store.1 = c.store.1.replay d.log ∧
      Throughout (fun l e => e.action.Answers (c.store.1.replay l) e.answer) d.log := by
  refine follow_induction (P := fun u => u.store.1 = c.store.1.replay u.log ∧
    Throughout (fun l e => e.action.Answers (c.store.1.replay l) e.answer) u.log)
    ⟨by rw [fresh]; rfl, fresh ▸ throughout_nil⟩ (fun u v i hu hv => ?_) h
  obtain ⟨hn, ha⟩ := hu
  obtain ⟨a, next, x, s, -, hx, rfl⟩ := step_eq_some hv
  obtain ⟨hx, hs⟩ := Nodes.serveAt_eq_some hx
  rw [hn] at hx hs
  refine ⟨?_, ha.append hx⟩
  rw [Nodes.replay_append]
  exact hs

end StorageDriver
