import StorageDriver.Proofs.NodeAtomicity
import StorageDriver.Proofs.Runs
import StorageDriver.Proofs.Tables

namespace StorageDriver

def Query.Finds (q : Query) (m : VirtualMachine) : Prop := ∃ d i, q.hits i = true ∧ m = .ofInfo d i

namespace Query.Finds

variable {q : Query} {m : VirtualMachine}

theorem uuid (h : q.Finds m) (hq : q.uuid ≠ "") : m.uuid = q.uuid := by
  obtain ⟨d, i, hi, rfl⟩ := h
  rw [hits, if_neg hq, decide_eq_true_iff] at hi
  exact hi

end Query.Finds

/-- What an action can come to, whatever the planes and the cluster answer. -/
def Action.Brings : (a : Action) → Nodes → a.Answer → Nodes → Prop
  | .nodes op, n, x, m => n.apply op = (x, m)
  | .search q, n, x, m => m = n ∧ ∀ v, x = .ok v → q.Finds v
  | .center _, n, _, m | .connect _, n, _, m | .client _, n, _, m | .ask _ _, n, _, m
  | .sleep _, n, _, m | .clusterUuid _, n, _, m => m = n

theorem World.Performs.brings {R : Type} [Remote R] {s : Setting} {a : Action} {w u : World R}
    {x : a.Answer} (h : w.Performs s a x u) : a.Brings w.nodes x u.nodes := by
  cases a with
  | search q =>
    obtain ⟨-, rfl, rfl⟩ | ⟨-, ms, t, es, hf, rfl, rfl⟩ := h.searched
    · exact ⟨rfl, nofun⟩
    · exact ⟨rfl, fun v hv => Search.hit_of_follow hf hv⟩
  | _ =>
    obtain ⟨rfl, rfl⟩ := Prod.mk.inj (h.direct trivial)
    rfl

namespace Proc

variable {α β : Type} {P : α → Nodes → Prop} {Q : β → Nodes → Prop} {n : Nodes}

/-- Whatever the planes and the cluster answer, the end is as `post` says. -/
def Leads : Proc α → (post : α → Nodes → Prop) → Nodes → Prop
  | done a, post, n => post a n
  | act a next, post, n => ∀ x m, a.Brings n x m → (next x).Leads post m

theorem Leads.mono {P' : α → Nodes → Prop} {p : Proc α} (h : p.Leads P n)
    (hP : ∀ a m, P a m → P' a m) : p.Leads P' n := by
  induction p generalizing n with
  | done a => exact hP a n h
  | act a next ih => exact fun x m hx => ih x (h x m hx)

theorem Leads.bind {p : Proc α} {f : α → Proc β} (hp : p.Leads P n)
    (hf : ∀ a m, P a m → (f a).Leads Q m) : (p.bind f).Leads Q n := by
  induction p generalizing n with
  | done a => exact hf a n hp
  | act a next ih => exact fun x m hx => ih x (hp x m hx)

theorem Leads.runs {R : Type} [Remote R] {p : Proc α} {s : Setting} {w v : World R} {r : α}
    (h : p.Leads P w.nodes) (hr : p.Runs s w r v) : P r v.nodes := by
  induction hr with
  | done a w => exact h
  | act hx hr ih => exact ih (h _ _ hx.brings)

end Proc

theorem Proc.Leads.behind {α : Type} {P : α → Nodes → Prop} {p : Proc α} {n : Nodes}
    (h : p.Leads P n) (bare : p.All fun a => a.isBare = true) (d : Nodes) :
    p.Leads (fun a m => ∃ k, P a k ∧ m = k.behind d) (n.behind d) := by
  induction p generalizing n with
  | done a => exact ⟨n, h, rfl⟩
  | act a next ih =>
    intro x m hx
    obtain ⟨k, hk, rfl⟩ : ∃ k, a.Brings n x k ∧ m = k.behind d := by
      cases a with
      | nodes op =>
        have ha : ((n.apply op).1, (n.apply op).2.behind d) = (x, m) :=
          (Nodes.apply_behind bare.1 n d).symm.trans hx
        obtain ⟨rfl, rfl⟩ := Prod.mk.inj ha
        exact ⟨_, rfl, rfl⟩
      | search q => exact ⟨n, ⟨rfl, hx.2⟩, hx.1⟩
      | _ => exact ⟨n, rfl, hx⟩
    exact ih x (h x k hk) (bare.2 x)

namespace Attempt

variable {α β : Type} {P : Except Error α → Nodes → Prop} {Q : Except Error β → Nodes → Prop}
  {n : Nodes}

def Leads (p : Attempt α) (post : Except Error α → Nodes → Prop) (n : Nodes) : Prop :=
  p.run.Leads post n

theorem Leads.mono {P' : Except Error α → Nodes → Prop} {p : Attempt α} (h : p.Leads P n)
    (hP : ∀ r m, P r m → P' r m) : p.Leads P' n :=
  Proc.Leads.mono h hP

theorem Leads.runs {R : Type} [Remote R] {p : Attempt α} {s : Setting} {w v : World R}
    {r : Except Error α} (h : p.Leads P w.nodes) (hr : p.Runs s w r v) : P r v.nodes :=
  Proc.Leads.runs h hr

theorem leads_pure {a : α} (h : P (.ok a) n) : (pure a : Attempt α).Leads P n := h

theorem leads_throw {e : Error} (h : P (.error e) n) : (throw e : Attempt α).Leads P n := h

theorem Leads.bind {p : Attempt α} {f : α → Attempt β} (hp : p.Leads P n)
    (ok : ∀ a m, P (.ok a) m → (f a).Leads Q m) (error : ∀ e m, P (.error e) m → Q (.error e) m) :
    (p >>= f).Leads Q n := by
  rw [Leads, run_bind]
  refine Proc.Leads.bind hp fun r m hr => ?_
  cases r with
  | ok a => exact ok a m hr
  | error e => exact error e m hr

theorem leads_nodes_bind {op : Nodes.Op} {f : op.Answer → Attempt β}
    (h : (f (n.apply op).1).Leads Q (n.apply op).2) : (nodes op >>= f).Leads Q n := by
  rw [Leads, run_nodes_bind]
  intro x m hx
  obtain ⟨rfl, rfl⟩ := Prod.mk.inj hx
  exact h

theorem leads_outcome_bind {p : Attempt α} {f : Except Error α → Attempt β} (hp : p.Leads P n)
    (hf : ∀ r m, P r m → (f r).Leads Q m) : (p.outcome >>= f).Leads Q n := by
  rw [Leads, run_outcome_bind]
  exact Proc.Leads.bind hp hf

theorem leads_search (q : Query) :
    (search q).Leads (fun r m => m = n ∧ ∀ v, r = .ok v → q.Finds v) n :=
  fun _ _ h => h

theorem leads_connect (host : String) : (connect host).Leads (fun _ m => m = n) n :=
  fun _ _ h => h

theorem leads_client (host : String) : (client host).Leads (fun _ m => m = n) n :=
  fun _ _ h => h

theorem leads_ask (s : Session) (q : Request) : (ask s q).Leads (fun _ m => m = n) n :=
  fun _ _ h => h

theorem leads_clusterUuid (node : String) : (clusterUuid node).Leads (fun _ m => m = n) n :=
  fun _ _ h => h

theorem leads_session (host : String) (reconnect : Bool) :
    (session host reconnect).Leads (fun _ m => m = n) n := by
  unfold session
  split
  · exact (leads_connect host).bind (fun _ _ h => h ▸ leads_client host) fun _ _ h => h
  · exact leads_client host

end Attempt

theorem VirtualMachine.leads_renew (v : VirtualMachine) (reconnect : Bool) (n : Nodes) :
    (v.renew reconnect).Leads (fun r m => m = n ∧ ∀ v', r = .ok v' → v'.uuid = v.uuid) n := by
  refine (Attempt.leads_session v.host reconnect).bind (fun s m hm => ?_) fun _ _ h => ⟨h, nofun⟩
  subst hm
  refine (Attempt.leads_ask s _).bind (fun i m hm => ?_) fun _ _ h => ⟨h, nofun⟩
  exact Attempt.leads_pure ⟨hm, fun v' hv => Except.ok.inj hv ▸ rfl⟩

namespace Node

open Attempt

variable {n : Nodes}

inductive Finds (uuid name : String) (n : Nodes) : Except Error VirtualMachine → Nodes → Prop
  | missed (e : Error) : Finds uuid name n (.error e) n
  | found {v : VirtualMachine} (h : Query.Finds ⟨name, uuid⟩ v) :
    Finds uuid name n (.ok v) { n with machines := n.machines.put v.uuid v }

theorem leads_find (uuid name : String) (n : Nodes) :
    (find uuid name).Leads (Finds uuid name n) n := by
  unfold find
  refine (leads_search _).bind (fun v m hm => ?_) fun e m hm => hm.1 ▸ .missed e
  obtain ⟨rfl, hv⟩ := hm
  have hk : (if uuid = "" then v.uuid else uuid) = v.uuid := by
    split
    · rfl
    · exact ((hv v rfl).uuid ‹_›).symm
  rw [hk]
  exact leads_nodes_bind (leads_pure (.found (hv v rfl)))

/-- The machines that stay when `name` gets another UUID. -/
def staying (n : Nodes) (uuid name : String) : Table VirtualMachine :=
  match n.uuids.get? name with
  | some old => if old ≠ "" ∧ old ≠ uuid then n.machines.erase old else n.machines
  | none => n.machines

/-- What `register` does to the nodes, the locks aside. -/
inductive Enters (uuid name : String) (n : Nodes) : Except Error Unit → Nodes → Prop
  | missed (e : Error) : Enters uuid name n (.error e)
    { n with uuids := n.uuids.put name uuid, machines := staying n uuid name }
  | found {v : VirtualMachine} (h : Query.Finds ⟨name, uuid⟩ v) : Enters uuid name n (.ok ())
    { n with
      uuids := n.uuids.put name v.uuid
      machines := (staying n uuid name).put v.uuid v }

theorem leads_enter (uuid name : String) (n : Nodes) :
    (enter uuid name).Leads (Enters uuid name n) n := by
  have rest : ∀ m : Nodes,
      m = { n with uuids := n.uuids.put name uuid, machines := staying n uuid name } →
      (do
        let v ← find uuid name
        if uuid = "" then
          let _ ← Attempt.nodes (.setUuid name v.uuid) : Attempt Unit).Leads
        (Enters uuid name n) m := by
    rintro _ rfl
    refine (leads_find uuid name _).bind (fun v m hm => ?_) fun e m hm => ?_
    · cases hm with
      | found hv =>
        split
        · refine leads_nodes_bind (leads_pure ?_)
          simpa [Nodes.apply, Table.put_put] using .found hv
        · have hk : v.uuid = uuid := hv.uuid ‹_›
          exact leads_pure (by simpa [hk] using Enters.found hv)
    · cases hm
      exact .missed e
  unfold enter
  refine leads_nodes_bind ?_
  simp only [Nodes.apply]
  cases hu : n.uuids.get? name with
  | none =>
    refine rest _ ?_
    simp [staying, hu]
  | some old =>
    dsimp only
    split
    · refine leads_nodes_bind (rest _ ?_)
      simp [staying, Nodes.apply, *]
    · refine rest _ ?_
      simp [staying, *]

end Node

namespace Nodes

variable {n d : Nodes} {name : String} {l : Nat}

theorem behind_eq (h : d.bare = n.bare) : n.behind d = d := by
  obtain ⟨hu, hm, -, -⟩ := mk.inj h
  rw [behind, ← hu, ← hm]

def secured (n : Nodes) (name : String) : Nodes :=
  if (n.locks.get? name).isSome then n
  else { n with locks := n.locks.put name n.made.length, made := n.made ++ [{}] }

theorem changeLock_self {f : Lock → Lock} {k : Lock} (h : d.made[l]? = some k) (hf : f k = k) :
    d.changeLock l f = d := by
  have hm : d.made.modify l f = d.made := by
    refine List.ext_getElem? fun j => ?_
    rw [List.getElem?_modify]
    by_cases hj : l = j
    · subst hj
      simp [h, hf]
    · simp [hj]
  rw [changeLock, hm]

theorem changeLock_changeLock (f g : Lock → Lock) :
    (d.changeLock l f).changeLock l g = d.changeLock l (g ∘ f) := by
  rw [changeLock, changeLock, changeLock, List.modify_modify_eq]

theorem modify_last {α : Type} (as : List α) (a : α) (f : α → α) :
    (as ++ [a]).modify as.length f = as ++ [f a] := by
  induction as with
  | nil => rfl
  | cons b as ih => simpa using ih

theorem claim_of_idle (idle : n.IsIdle name) :
    (n.apply (.claim name)).2.locks.get? name = some (n.apply (.claim name)).1 ∧
      (n.apply (.claim name)).2.made[(n.apply (.claim name)).1]? = some { claims := 1 } ∧
      ((n.apply (.claim name)).2.apply (.disclaim (n.apply (.claim name)).1)).2 =
        n.secured name := by
  cases hl : n.locks.get? name with
  | some l =>
    have hm := idle l hl
    simp only [apply, hl]
    refine ⟨hl, ?_, ?_⟩
    · simp [changeLock, hm]
    · rw [changeLock_changeLock, changeLock_self hm rfl, secured, if_pos (by simp [hl])]
  | none =>
    simp only [apply, hl]
    refine ⟨by simp, by simp, ?_⟩
    rw [secured, if_neg (by simp [hl]), changeLock]
    exact congrArg (mk _ _ _) (modify_last _ _ _)

end Nodes

namespace Node

open Attempt

variable {name : String} {body tidy : Attempt Unit} {P : Except Error Unit → Nodes → Prop}
  {n : Nodes}

theorem leads_guarded (out : Nodes) (idle : n.IsIdle name)
    (bare : body.run.All fun a => a.isBare = true) (hb : body.Leads P n)
    (ht : ∀ k : Nodes, tidy.Leads (fun r m => r = .ok () ∧ m = k.behind out)
      (k.behind (n.apply (.claim name)).2)) :
    (guarded name body tidy).Leads (fun r m => ∃ k : Nodes, P r k ∧
      m = k.behind (out.apply (.disclaim (n.apply (.claim name)).1)).2) n := by
  obtain ⟨-, hl, -⟩ := Nodes.claim_of_idle idle
  unfold guarded
  refine leads_nodes_bind (leads_nodes_bind ?_)
  generalize hc : n.apply (.claim name) = c at *
  have hd : n.behind (c.2.apply (.acquire c.1)).2 = (c.2.apply (.acquire c.1)).2 := by
    refine Nodes.behind_eq ((Nodes.bare_apply (.acquire c.1) rfl c.2).trans ?_)
    rw [← hc]
    exact Nodes.bare_apply (.claim name) rfl n
  rw [← hd]
  refine leads_outcome_bind (Proc.Leads.behind hb bare _) fun r m hr => ?_
  obtain ⟨k, hk, rfl⟩ := hr
  refine leads_nodes_bind ?_
  have hfree : ((k.behind (c.2.apply (.acquire c.1)).2).apply (.release c.1)).2 = k.behind c.2 := by
    show k.behind ((c.2.changeLock c.1 _).changeLock c.1 _) = _
    rw [Nodes.changeLock_changeLock, Nodes.changeLock_self hl rfl]
  rw [hfree]
  refine (ht k).bind (fun _ m hm => ?_) fun _ _ hm => nomatch hm.1
  obtain ⟨-, rfl⟩ := hm
  exact leads_nodes_bind ⟨k, hk, rfl⟩

/-- To register a name alone is to do what `enter` does, and the name has a lock then. -/
theorem leads_register (uuid : String) (idle : n.IsIdle name) :
    (register uuid name).Leads
      (fun r m => ∃ k, Enters uuid name n r k ∧ m = k.behind (n.secured name)) n := by
  obtain ⟨-, -, hs⟩ := Nodes.claim_of_idle idle
  rw [← hs]
  exact leads_guarded _ idle (Errand.all_body name (.register uuid)) (leads_enter uuid name n)
    fun k => leads_pure ⟨rfl, rfl⟩

inductive Leaves (name : String) (n : Nodes) : Except Error Unit → Nodes → Prop
  | unknown (h : n.uuids.get? name = none) : Leaves name n (.error (.nodeNotFound name)) n
  | known {uuid : String} (h : n.uuids.get? name = some uuid) : Leaves name n (.ok ())
    { n.secured name with
      uuids := n.uuids.erase name
      machines := n.machines.erase uuid
      locks := (n.secured name).locks.erase name }

theorem leads_leave {uuid : String} (h : n.uuids.get? name = some uuid) :
    (leave name).Leads (fun r m => r = .ok () ∧
      m = { n with uuids := n.uuids.erase name, machines := n.machines.erase uuid }) n := by
  unfold leave
  refine leads_nodes_bind ?_
  simp only [Nodes.apply, h]
  intro _ m hm
  obtain ⟨-, rfl⟩ := Prod.mk.inj hm
  exact ⟨rfl, rfl⟩

theorem leads_unregister (idle : n.IsIdle name) : (unregister name).Leads (Leaves name n) n := by
  obtain ⟨hc, hl, hs⟩ := Nodes.claim_of_idle idle
  unfold unregister
  refine leads_nodes_bind ?_
  show Leads (if (n.uuids.get? name).isNone then _ else _) _ _
  cases hu : n.uuids.get? name with
  | none => exact leads_throw (.unknown hu)
  | some uuid =>
    have ht (k : Nodes) : (Attempt.nodes (.retire name)).Leads
        (fun r m => r = .ok () ∧ m = k.behind { (n.apply (.claim name)).2 with
          locks := (n.apply (.claim name)).2.locks.erase name })
        (k.behind (n.apply (.claim name)).2) := by
      generalize n.apply (.claim name) = c at hc hl
      have hk : ((k.behind c.2).lock c.1).claims ≤ 1 := by
        show (c.2.made.getD c.1 {}).claims ≤ 1
        rw [List.getD_eq_getElem?_getD, hl]
        exact Nat.le_refl 1
      have hn : (k.behind c.2).locks.get? name = some c.1 := hc
      intro _ m hm
      simp only [Action.Brings, Nodes.apply, hn, if_pos hk] at hm
      exact ⟨rfl, (Prod.mk.inj hm).2.symm⟩
    refine (leads_guarded _ idle (Errand.all_body name .unregister) (leads_leave hu) ht).mono
      fun r m hm => ?_
    obtain ⟨k, ⟨rfl, rfl⟩, rfl⟩ := hm
    have hk : Leaves name n (.ok ()) _ := .known hu
    rw [← hs] at hk
    exact hk

end Node

section

variable {R α β : Type} [Remote R] (s : Setting) (w : World R)

namespace Attempt

theorem execute_nodes_bind (op : Nodes.Op) (f : op.Answer → Attempt β) :
    (nodes op >>= f).execute s w =
      (f (w.nodes.apply op).1).execute s { w with nodes := (w.nodes.apply op).2 } := rfl

theorem execute_outcome_bind (p : Attempt α) (f : Except Error α → Attempt β) :
    (p.outcome >>= f).execute s w = (f (p.execute s w).1).execute s (p.execute s w).2 := by
  rw [execute, run_outcome_bind, Proc.run_bind]
  rfl

end Attempt

namespace Node

open Attempt

theorem execute_find (uuid name : String) : ((find uuid name).execute s w).1 =
    ((Network.search s.pool .endless ⟨name, uuid⟩).run.run w.net).1 := by
  have hs : (Attempt.search ⟨name, uuid⟩).execute s w =
    (((Network.search s.pool .endless ⟨name, uuid⟩).run.run w.net).1,
      { w with net := ((Network.search s.pool .endless ⟨name, uuid⟩).run.run w.net).2 }) := rfl
  rw [find, execute_bind, hs]
  cases ((Network.search s.pool .endless ⟨name, uuid⟩).run.run w.net).1 <;> rfl

theorem execute_enter (uuid name : String) : ((enter uuid name).execute s w).1 =
    ((Network.search s.pool .endless ⟨name, uuid⟩).run.run w.net).1.map fun _ => () := by
  have rest : ∀ w' : World R, w'.net = w.net →
      ((do
        let v ← find uuid name
        if uuid = "" then
          let _ ← Attempt.nodes (.setUuid name v.uuid) : Attempt Unit).execute s w').1 =
        ((Network.search s.pool .endless ⟨name, uuid⟩).run.run w.net).1.map fun _ => () := by
    intro w' hw
    rw [execute_bind, ← hw, ← execute_find]
    cases (find uuid name).execute s w' with
    | mk r w'' =>
      cases r with
      | error e => rfl
      | ok v =>
        dsimp only
        split <;> rfl
  unfold enter
  rw [execute_nodes_bind]
  generalize (w.nodes.apply (.setUuid name uuid)).1 = previous
  cases previous with
  | none => exact rest _ rfl
  | some old =>
    by_cases ho : old ≠ "" ∧ old ≠ uuid
    · simp only [if_pos ho]
      exact rest _ rfl
    · simp only [if_neg ho]
      exact rest _ rfl

/-- A node is registered with success exactly if its machine is found. -/
theorem execute_register (uuid name : String) : ((register uuid name).execute s w).1 =
    ((Network.search s.pool .endless ⟨name, uuid⟩).run.run w.net).1.map fun _ => () := by
  unfold register guarded
  rw [execute_nodes_bind, execute_nodes_bind, execute_outcome_bind]
  exact execute_enter s _ uuid name

end Node

end

end StorageDriver
