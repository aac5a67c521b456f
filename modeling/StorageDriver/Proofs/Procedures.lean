import StorageDriver.Node

namespace StorageDriver

theorem ok_of_toOption {α : Type} {r : Except Error α} {a : α} (h : r.toOption = some a) :
    r = .ok a := by
  cases r with
  | error e => cases h
  | ok b => exact congrArg _ (Option.some.inj h)

/-- What is tried in the same order on both sides comes first at the same place. -/
theorem rel_findSome? {α β γ : Type} {r : β → γ → Prop} {g : α → Option β} {k : α → Option γ}
    (h : ∀ a, Option.Rel r (g a) (k a)) (as : List α) :
    Option.Rel r (as.findSome? g) (as.findSome? k) := by
  induction as with
  | nil => exact .none
  | cons a as ih =>
    have ha := h a
    rw [List.findSome?_cons, List.findSome?_cons]
    generalize g a = x at ha
    generalize k a = y at ha
    cases ha with
    | none => exact ih
    | some ha => exact .some ha

namespace Proc

variable {α β : Type}

/-- Whatever is answered, all actions satisfy `Q`. -/
def All (Q : Action → Prop) : Proc α → Prop
  | done _ => True
  | act a next => Q a ∧ ∀ x, (next x).All Q

theorem All.bind {Q : Action → Prop} {p : Proc α} {f : α → Proc β} (hp : p.All Q)
    (hf : ∀ a, (f a).All Q) : (p.bind f).All Q := by
  induction p with
  | done a => exact hf a
  | act a next ih => exact ⟨hp.1, fun x => ih x (hp.2 x)⟩

theorem All.mono {Q Q' : Action → Prop} {p : Proc α} (h : p.All Q) (hq : ∀ a, Q a → Q' a) :
    p.All Q' := by
  induction p with
  | done a => trivial
  | act a next ih => exact ⟨hq a h.1, fun x => ih x (h.2 x)⟩

end Proc

namespace Attempt

variable {α β : Type}

theorem run_bind {ε : Type} (p : ExceptT ε Proc α) (f : α → ExceptT ε Proc β) :
    (p >>= f).run = p.run.bind fun
      | .ok a => (f a).run
      | .error e => .done (.error e) := by
  show Proc.bind p.run _ = _
  congr 1
  funext r
  cases r <;> rfl

theorem run_nodes_bind (op : Nodes.Op) (f : op.Answer → Attempt β) :
    (nodes op >>= f).run = .act (.nodes op) fun x => (f x).run := rfl

theorem run_outcome_bind (p : Attempt α) (f : Except Error α → Attempt β) :
    (p.outcome >>= f).run = p.run.bind fun r => (f r).run := by
  rw [run_bind]
  exact Proc.bind_assoc _ _ _

theorem all_bind {Q : Action → Prop} {p : Attempt α} {f : α → Attempt β} (hp : p.run.All Q)
    (hf : ∀ a, (f a).run.All Q) : (p >>= f).run.All Q := by
  rw [run_bind]
  refine hp.bind fun r => ?_
  cases r with
  | ok a => exact hf a
  | error e => trivial

theorem all_nodes {Q : Action → Prop} {op : Nodes.Op} (h : Q (.nodes op)) :
    (nodes op).run.All Q :=
  ⟨h, fun _ => trivial⟩

theorem all_outcome_bind {Q : Action → Prop} {p : Attempt α} {f : Except Error α → Attempt β}
    (hp : p.run.All Q) (hf : ∀ r, (f r).run.All Q) : (p.outcome >>= f).run.All Q := by
  rw [run_outcome_bind]
  exact hp.bind hf

theorem all_search {Q : Action → Prop} {q : Query} (h : Q (.search q)) : (search q).run.All Q :=
  ⟨h, fun _ => trivial⟩

theorem all_session {Q : Action → Prop} {host : String} (connect : Q (.connect host))
    (client : Q (.client host)) (reconnect : Bool) : (session host reconnect).run.All Q := by
  have client : (Attempt.client host).run.All Q := ⟨client, fun _ => trivial⟩
  unfold session
  cases reconnect with
  | true => exact all_bind ⟨connect, fun _ => trivial⟩ fun _ => client
  | false => exact client

end Attempt

theorem VirtualMachine.all_renew {Q : Action → Prop} {m : VirtualMachine}
    (connect : Q (.connect m.host)) (client : Q (.client m.host))
    (ask : ∀ s, Q (.ask s (.machine m.id))) (reconnect : Bool) : (m.renew reconnect).run.All Q :=
  Attempt.all_bind (Attempt.all_session connect client reconnect) fun s =>
    Attempt.all_bind ⟨ask s, fun _ => trivial⟩ fun _ => trivial

namespace Node

variable {Q : Action → Prop}

theorem all_fetchUuid (cluster : ∀ node, Q (.clusterUuid node)) (name : String) :
    (fetchUuid name).run.All Q := by
  unfold fetchUuid
  refine Attempt.all_bind ⟨cluster name, fun _ => trivial⟩ fun uuid => ?_
  split <;> exact trivial

theorem all_uuid (cluster : ∀ node, Q (.clusterUuid node)) (nodes : ∀ op, Q (.nodes op))
    (name : String) : (uuid name).run.All Q := by
  refine Attempt.all_bind (Attempt.all_nodes (nodes _)) fun known => ?_
  cases known with
  | none => exact trivial
  | some known =>
    dsimp only
    split
    · exact trivial
    · exact Attempt.all_bind (all_fetchUuid cluster name) fun _ =>
        Attempt.all_bind (Attempt.all_nodes (nodes _)) fun _ => trivial

theorem all_fill (cluster : ∀ node, Q (.clusterUuid node)) (nodes : ∀ op, Q (.nodes op))
    (names : List String) : (fill names).run.All Q := by
  induction names with
  | nil => exact trivial
  | cons name names ih =>
    refine Attempt.all_outcome_bind (all_fetchUuid cluster name) fun fetched => ?_
    cases fetched with
    | error e => exact ih
    | ok uuid => exact Attempt.all_bind (Attempt.all_nodes (nodes _)) fun _ => ih

theorem all_renewAll (connect : ∀ host, Q (.connect host)) (client : ∀ host, Q (.client host))
    (ask : ∀ s id, Q (.ask s (.machine id))) (nodes : ∀ op, Q (.nodes op)) (met : List String)
    (ms : Table VirtualMachine) : (renewAll met ms).run.All Q := by
  induction ms generalizing met with
  | nil => exact trivial
  | cons m ms ih =>
    exact Attempt.all_bind (m.2.all_renew (connect _) (client _) (ask · _) _) fun _ =>
      Attempt.all_bind (Attempt.all_nodes (nodes _)) fun _ =>
        Attempt.all_bind (ih _) fun _ => trivial

theorem all_sweep (connect : ∀ host, Q (.connect host)) (client : ∀ host, Q (.client host))
    (ask : ∀ s id, Q (.ask s (.machine id))) (cluster : ∀ node, Q (.clusterUuid node))
    (nodes : ∀ op, Q (.nodes op)) : sweep.run.All Q :=
  Attempt.all_bind (Attempt.all_nodes (nodes _)) fun names =>
    Attempt.all_bind (all_fill cluster nodes names) fun _ =>
      Attempt.all_bind (Attempt.all_nodes (nodes _)) fun ms =>
        all_renewAll connect client ask nodes [] ms

end Node

end StorageDriver
