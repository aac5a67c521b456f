import StorageDriver.Node
import StorageDriver.Proofs.Crowd
import StorageDriver.Proofs.Procedures

namespace StorageDriver

theorem Table.erase_of_none {α : Type} {t : Table α} {key : String} (h : t.get? key = none) :
    t.erase key = t := by
  induction t with
  | nil => rfl
  | cons p t ih =>
    rw [get?_cons] at h
    split at h
    · cases h
    · rename_i hp
      simpa [erase, hp] using ih h

namespace Nodes

/-- What an action comes to where `o` answers all but the nodes. -/
def answer (o : (a : Action) → a.Answer) : (a : Action) → Nodes → a.Answer × Nodes
  | .nodes op, n => apply op n
  | a, n => (o a, n)

def blocks (n : Nodes) : Action → Bool
  | .nodes op => !n.enabled op
  | _ => false

def serve (o : Nat → (a : Action) → a.Answer) : Crowd.Service Nodes := fun i a n =>
  if n.blocks a then none else some (answer (o i) a n)

theorem serve_eq_some {o : Nat → (a : Action) → a.Answer} {i : Nat} {a : Action} {x : a.Answer}
    {n m : Nodes} (h : serve o i a n = some (x, m)) :
    n.blocks a = false ∧ (answer (o i) a n).1 = x ∧ (answer (o i) a n).2 = m := by
  unfold serve at h
  split at h
  · cases h
  · rename_i hb
    have hx := Option.some.inj h
    exact ⟨by simpa using hb, congrArg Prod.fst hx, congrArg Prod.snd hx⟩

def bare (n : Nodes) : Nodes := { n with locks := [], made := [] }

def Op.isBare : Op → Bool
  | claim _ | acquire _ | release _ | retire _ | disclaim _ => false
  | _ => true

/-- What is registered and found in `n`, with the locks of `d`. -/
def behind (n d : Nodes) : Nodes := { n with locks := d.locks, made := d.made }

theorem apply_behind {op : Op} (h : op.isBare = true) (n d : Nodes) :
    apply op (n.behind d) = ((apply op n).1, (apply op n).2.behind d) := by
  cases op with
  | refresh uuid m => by_cases hm : n.machines.has uuid = true <;> simp [apply, behind, hm]
  | claim | acquire | release | retire | disclaim => cases h
  | _ => rfl

theorem apply_bare {op : Op} (h : op.isBare = true) (n : Nodes) :
    apply op n.bare = ((apply op n).1, (apply op n).2.bare) :=
  apply_behind h n {}

theorem locks_apply {op : Op} (h : op.isBare = true) (n : Nodes) :
    (apply op n).2.locks = n.locks ∧ (apply op n).2.made = n.made := by
  cases op with
  | refresh uuid m =>
    simp only [apply]
    split <;> exact ⟨rfl, rfl⟩
  | claim | acquire | release | retire | disclaim => cases h
  | _ => exact ⟨rfl, rfl⟩

theorem bare_apply (op : Op) (h : op.isBare = false) (n : Nodes) :
    (apply op n).2.bare = n.bare := by
  cases op with
  | claim name =>
    simp only [apply]
    split <;> rfl
  | retire name =>
    simp only [apply]
    split
    · split <;> rfl
    · rfl
  | acquire | release | disclaim => rfl
  | _ => cases h

end Nodes

def Action.isBare : Action → Bool
  | .nodes op => op.isBare
  | _ => true

section

variable {α β : Type} {o : (a : Action) → a.Answer}

theorem Nodes.answer_bare {a : Action} (h : a.isBare = true) (n : Nodes) :
    Nodes.answer o a n.bare = ((Nodes.answer o a n).1, (Nodes.answer o a n).2.bare) := by
  cases a with
  | nodes op => exact Nodes.apply_bare h n
  | _ => rfl

theorem Nodes.locks_answer {a : Action} (h : a.isBare = true) (n : Nodes) :
    (Nodes.answer o a n).2.locks = n.locks ∧ (Nodes.answer o a n).2.made = n.made := by
  cases a with
  | nodes op => exact Nodes.locks_apply h n
  | _ => exact ⟨rfl, rfl⟩

def Proc.alone (o : (a : Action) → a.Answer) : Proc α → Nodes → α × Nodes
  | .done a, n => (a, n)
  | .act a next, n => (next (Nodes.answer o a n).1).alone o (Nodes.answer o a n).2

theorem Proc.alone_bind (p : Proc α) (f : α → Proc β) (n : Nodes) :
    (p.bind f).alone o n = (f (p.alone o n).1).alone o (p.alone o n).2 := by
  induction p generalizing n with
  | done => rfl
  | act a next ih => exact ih _ _

theorem Proc.alone_bare {p : Proc α} (h : p.All fun a => a.isBare = true) (n : Nodes) :
    p.alone o n.bare = ((p.alone o n).1, (p.alone o n).2.bare) := by
  induction p generalizing n with
  | done => rfl
  | act a next ih =>
    simp only [Proc.alone, Nodes.answer_bare h.1]
    exact ih _ (h.2 _) _

end

open Node

inductive Errand
  | register (uuid : String)
  | unregister
deriving DecidableEq, Repr

namespace Errand

def proc (name : String) : Errand → Proc (Except Error Unit)
  | register uuid => (Node.register uuid name).run
  | unregister => (Node.unregister name).run

def body (name : String) : Errand → Proc (Except Error Unit)
  | register uuid => (enter uuid name).run
  | unregister => (leave name).run

def opening (name : String) : Errand → Nodes.Op
  | register uuid => .setUuid name uuid
  | unregister => .dropUuid name

def leaving (l : Nat) (r : Except Error Unit) : Proc (Except Error Unit) :=
  .act (.nodes (.disclaim l)) fun _ => .done r

def tidying (name : String) (l : Nat) (r : Except Error Unit) : Errand → Proc (Except Error Unit)
  | register _ => leaving l r
  | unregister => .act (.nodes (.retire name)) fun _ => leaving l r

def inside (name : String) (e : Errand) (l : Nat) (p : Proc (Except Error Unit)) :
    Proc (Except Error Unit) :=
  p.bind fun r => .act (.nodes (.release l)) fun _ => e.tidying name l r

def waiting (name : String) (e : Errand) (l : Nat) : Proc (Except Error Unit) :=
  .act (.nodes (.acquire l)) fun _ => e.inside name l (e.body name)

def claiming (name : String) (e : Errand) : Proc (Except Error Unit) :=
  .act (.nodes (.claim name)) (e.waiting name)

theorem run_guarded (name : String) (body tidy : Attempt Unit) :
    (guarded name body tidy).run = .act (.nodes (.claim name)) fun l =>
      .act (.nodes (.acquire l)) fun _ => body.run.bind fun r =>
        .act (.nodes (.release l)) fun _ => tidy.run.bind fun
          | .ok _ => leaving l r
          | .error e => .done (.error e) := by
  refine (Attempt.run_nodes_bind _ _).trans (congrArg (Proc.act _) (funext fun l => ?_))
  refine (Attempt.run_nodes_bind _ _).trans (congrArg (Proc.act _) (funext fun _ => ?_))
  refine (Attempt.run_outcome_bind _ _).trans (congrArg (Proc.bind _) (funext fun r => ?_))
  refine (Attempt.run_nodes_bind _ _).trans (congrArg (Proc.act _) (funext fun _ => ?_))
  refine (Attempt.run_bind _ _).trans (congrArg (Proc.bind _) (funext fun t => ?_))
  cases t <;> rfl

theorem proc_register (uuid name : String) :
    (register uuid).proc name = (register uuid).claiming name :=
  (run_guarded name (enter uuid name) (pure ())).trans rfl

theorem proc_unregister (name : String) :
    unregister.proc name = .act (.nodes (.uuid name)) fun x =>
      if x.isNone then .done (.error (.nodeNotFound name)) else unregister.claiming name := by
  refine (Attempt.run_nodes_bind _ _).trans (congrArg (Proc.act _) (funext fun x => ?_))
  cases x with
  | none => rfl
  | some uuid => exact (run_guarded name (leave name) (Attempt.nodes (.retire name))).trans rfl

theorem body_unregister (name : String) :
    unregister.body name = .act (.nodes (.dropUuid name)) fun
      | some uuid => (Attempt.nodes (.drop uuid)).run
      | none => .done (.error (.nodeNotFound name)) := by
  refine (Attempt.run_nodes_bind _ _).trans (congrArg (Proc.act _) (funext fun x => ?_))
  cases x <;> rfl

/-- Whether the name is registered once the lock is released. -/
def registers : Errand → Bool
  | register _ => true
  | unregister => false

def Registered (name : String) (e : Errand) (n : Nodes) : Prop :=
  (n.uuids.get? name).isSome = e.registers

/-- What only touches what is registered and found, and leaves the name as it is wanted. -/
def Keeps (name : String) (e : Errand) (a : Action) : Prop :=
  a.isBare = true ∧ ∀ o n, e.Registered name n → e.Registered name (Nodes.answer o a n).2

theorem isBare_opening (name : String) (e : Errand) : (e.opening name).isBare = true := by
  cases e <;> rfl

theorem registered_opening (name : String) (e : Errand) (n : Nodes) :
    e.Registered name (Nodes.apply (e.opening name) n).2 := by
  cases e <;> simp [Registered, opening, Nodes.apply, registers]

theorem keeps_drop (name : String) (e : Errand) (uuid : String) :
    e.Keeps name (.nodes (.drop uuid)) :=
  ⟨rfl, fun _ _ h => h⟩

theorem keeps_find (name : String) (e : Errand) (uuid : String) :
    (find uuid name).run.All (e.Keeps name) := by
  unfold find
  refine Attempt.all_bind (Attempt.all_search ⟨rfl, fun _ _ h => h⟩) fun m => ?_
  exact Attempt.all_bind (Attempt.all_nodes ⟨rfl, fun _ _ h => h⟩) fun _ => trivial

theorem exists_body (name : String) (e : Errand) :
    ∃ next, e.body name = .act (.nodes (e.opening name)) next ∧
      ∀ x, (next x).All (e.Keeps name) := by
  cases e with
  | register uuid =>
    refine ⟨_, Attempt.run_nodes_bind _ _, fun x => ?_⟩
    have rest : (do
        let m ← find uuid name
        if uuid = "" then
          let _ ← Attempt.nodes (.setUuid name m.uuid) : Attempt Unit).run.All
          ((register uuid).Keeps name) := by
      refine Attempt.all_bind (keeps_find name _ uuid) fun m => ?_
      split
      · refine Attempt.all_bind (Attempt.all_nodes ⟨rfl, fun o n _ => ?_⟩) fun _ => trivial
        exact registered_opening name (.register m.uuid) n
      · trivial
    cases x with
    | none => exact rest
    | some old =>
      dsimp only
      split
      · exact Attempt.all_bind (Attempt.all_nodes (keeps_drop name _ old)) fun _ => rest
      · exact rest
  | unregister =>
    refine ⟨_, body_unregister name, fun x => ?_⟩
    cases x with
    | none => trivial
    | some uuid => exact Attempt.all_nodes (keeps_drop name _ uuid)

section

variable {name : String} {e : Errand} {o : (a : Action) → a.Answer}

theorem registered_alone {p : Proc (Except Error Unit)} (h : p.All (e.Keeps name)) {n : Nodes}
    (hn : e.Registered name n) : e.Registered name (p.alone o n).2 := by
  induction p generalizing n with
  | done r => exact hn
  | act a next ih => exact ih _ (h.2 _) (h.1.2 o n hn)

theorem all_body (name : String) (e : Errand) : (e.body name).All fun a => a.isBare = true := by
  obtain ⟨next, hb, hn⟩ := e.exists_body name
  rw [hb]
  exact ⟨e.isBare_opening name, fun x => (hn x).mono fun _ ha => ha.1⟩

theorem alone_tidying (name : String) (o : (a : Action) → a.Answer) (e : Errand) (l : Nat)
    (r : Except Error Unit) (n : Nodes) :
    ((e.tidying name l r).alone o n).1 = r ∧ ((e.tidying name l r).alone o n).2.bare = n.bare := by
  cases e with
  | register uuid => exact ⟨rfl, rfl⟩
  | unregister => exact ⟨rfl, Nodes.bare_apply (.retire name) rfl n⟩

theorem alone_inside (l : Nat) {p : Proc (Except Error Unit)} (h : p.All fun a => a.isBare = true)
    (n : Nodes) : ((e.inside name l p).alone o n).1 = (p.alone o n.bare).1 ∧
      ((e.inside name l p).alone o n).2.bare = (p.alone o n.bare).2 := by
  have ht := alone_tidying name o e l (p.alone o n).1
    (Nodes.apply (.release l) (p.alone o n).2).2
  rw [inside, Proc.alone_bind, Proc.alone_bare h]
  exact ⟨ht.1, ht.2.trans (Nodes.bare_apply (.release l) rfl _)⟩

theorem alone_claiming (n : Nodes) :
    ((e.claiming name).alone o n).1 = ((e.body name).alone o n.bare).1 ∧
      ((e.claiming name).alone o n).2.bare = ((e.body name).alone o n.bare).2 := by
  have hc := Nodes.bare_apply (.claim name) rfl n
  have ha := Nodes.bare_apply (.acquire (Nodes.apply (.claim name) n).1) rfl
    (Nodes.apply (.claim name) n).2
  rw [← hc, ← ha]
  exact alone_inside _ (e.all_body name) _

/-- Who finds the name gone once it holds the lock does as who finds it gone before. -/
theorem alone_leave_of_none {n : Nodes} (h : n.uuids.get? name = none) :
    (unregister.body name).alone o n = (.error (.nodeNotFound name), n) := by
  have ha : Nodes.answer o (.nodes (.dropUuid name)) n = (none, n) := by
    show (n.uuids.get? name, { n with uuids := n.uuids.erase name }) = _
    rw [h, Table.erase_of_none h]
  rw [body_unregister, Proc.alone, ha]
  rfl

/-- Seen without the locks an errand is what it does with the lock held. -/
theorem alone_proc (name : String) (e : Errand) (o : (a : Action) → a.Answer) (n : Nodes) :
    ((e.proc name).alone o n).1 = ((e.body name).alone o n.bare).1 ∧
      ((e.proc name).alone o n).2.bare = ((e.body name).alone o n.bare).2 := by
  cases e with
  | register uuid =>
    rw [proc_register]
    exact alone_claiming n
  | unregister =>
    rw [proc_unregister]
    show (Proc.alone o (if (n.uuids.get? name).isNone then _ else _) n).1 = _ ∧
      (Proc.alone o (if (n.uuids.get? name).isNone then _ else _) n).2.bare = _
    cases hn : n.uuids.get? name with
    | none =>
      rw [alone_leave_of_none (n := n.bare) hn]
      exact ⟨rfl, rfl⟩
    | some uuid => exact alone_claiming n

end

end Errand

end StorageDriver
