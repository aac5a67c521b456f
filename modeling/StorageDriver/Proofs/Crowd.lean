import StorageDriver.Proc

namespace StorageDriver

theorem getElem?_set_iff {α : Type} {l : List α} {i j : Nat} {a b c : α} (h : l[i]? = some a) :
    (l.set i b)[j]? = some c ↔ j = i ∧ c = b ∨ j ≠ i ∧ l[j]? = some c := by
  have hi := (List.getElem?_eq_some_iff.1 h).1
  by_cases hj : j = i
  · subst hj
    simp [List.getElem?_set_self hi, eq_comm]
  · simp [List.getElem?_set_ne (Ne.symm hj), hj]

theorem countP_set_add {α : Type} {l : List α} {i : Nat} {a : α} (h : l[i]? = some a)
    (p : α → Bool) (b : α) :
    (l.set i b).countP p + (p a).toNat = l.countP p + (p b).toNat := by
  induction l generalizing i with
  | nil => simp at h
  | cons x l ih =>
    cases i with
    | zero =>
      obtain rfl : x = a := by simpa using h
      simp only [List.set_cons_zero, List.countP_cons]
      cases p x <;> cases p b <;> simp
    | succ i =>
      have hl := ih (i := i) (by simpa using h)
      simp only [List.set_cons_succ, List.countP_cons]
      omega

/-- An action that somebody took, with its answer. -/
structure Deed where
  who : Nat
  action : Action
  answer : action.Answer

/-- Procedures over one store that take turns in any order, with all that they did so far. -/
structure Crowd (σ α : Type) where
  store : σ
  members : List (Proc α)
  log : List Deed := []

namespace Crowd

variable {σ α : Type}

/-- What a member's action does to the store, and none where it has to wait. -/
abbrev Service (σ : Type) : Type := Nat → (a : Action) → σ → Option (a.Answer × σ)

/-- The next action of member `i`. -/
def step (serve : Service σ) (c : Crowd σ α) (i : Nat) : Option (Crowd σ α) :=
  match c.members[i]? with
  | some (.act a next) => (serve i a c.store).map fun (x, s) =>
    { store := s, members := c.members.set i (next x), log := c.log ++ [⟨i, a, x⟩] }
  | _ => none

def follow (serve : Service σ) (c : Crowd σ α) : List Nat → Option (Crowd σ α)
  | [] => some c
  | i :: is => (c.step serve i).bind fun d => d.follow serve is

variable {serve : Service σ} {c d : Crowd σ α} {i : Nat}

theorem step_eq_some (h : c.step serve i = some d) :
    ∃ a next x s, c.members[i]? = some (.act a next) ∧ serve i a c.store = some (x, s) ∧
      d = { store := s, members := c.members.set i (next x), log := c.log ++ [⟨i, a, x⟩] } := by
  unfold step at h
  split at h
  · rename_i a next hm
    obtain ⟨⟨x, s⟩, hx, rfl⟩ := Option.map_eq_some_iff.1 h
    exact ⟨a, next, x, s, hm, hx, rfl⟩
  · cases h

/-- What a step of any member keeps, `follow` keeps. -/
theorem follow_induction {P : Crowd σ α → Prop} (start : P c)
    (step : ∀ u v i, P u → u.step serve i = some v → P v) {is : List Nat}
    (h : c.follow serve is = some d) : P d := by
  induction is generalizing c with
  | nil => exact Option.some.inj h ▸ start
  | cons i is ih =>
    obtain ⟨u, hu, hd⟩ := Option.bind_eq_some_iff.1 h
    exact ih (step c u i start hu) hd

end Crowd

end StorageDriver
