import StorageDriver.Csi.Service
import StorageDriver.Proofs.Discretion
import StorageDriver.Proofs.Operations
import StorageDriver.Proofs.Resolutions

namespace StorageDriver

/-- The answers are the same, passwords aside. -/
def Action.Same : (a : Action) → a.Answer → a.Answer → Prop
  | .center _, x, y => x.map Center.Config.veiled = y.map Center.Config.veiled
  | .connect _, x, y | .client _, x, y | .ask _ _, x, y | .sleep _, x, y | .search _, x, y
  | .clusterUuid _, x, y | .nodes _, x, y => x = y

def Action.IsBlind : Action → Prop
  | .center _ => False
  | _ => True

theorem Action.IsBlind.same {a : Action} (h : a.IsBlind) {x y : a.Answer} (hx : a.Same x y) :
    x = y := by
  cases a with
  | center host => cases h
  | _ => exact hx

/-- What it does next never depends on a password. -/
def Proc.Blind {α : Type} : Proc α → Prop
  | done _ => True
  | act a next => (∀ x y, a.Same x y → next x = next y) ∧ ∀ x, (next x).Blind

theorem Proc.blind_of_all {α : Type} {p : Proc α} (h : p.All Action.IsBlind) : p.Blind := by
  induction p with
  | done a => trivial
  | act a next ih => exact ⟨fun x y hx => congrArg next (h.1.same hx), fun x => ih x (h.2 x)⟩

def Attempt.Blind {α : Type} (p : Attempt α) : Prop := p.run.Blind

theorem Action.talk_blind : Action.Talk Action.IsBlind :=
  ⟨fun _ => trivial, fun _ => trivial, fun _ _ => trivial, fun _ => trivial⟩

theorem Datacenter.blind_lookup (d : Datacenter) (q : Query) :
    (d.lookup q).run.All Action.IsBlind := by
  have client : (Attempt.client d.host).run.All Action.IsBlind := ⟨trivial, fun _ => trivial⟩
  have looked : (do
      let s ← Attempt.client d.host
      let ms ← Attempt.ask s (.machines d.id)
      .ofOutcome (q.answer d ms) : Attempt VirtualMachine).run.All Action.IsBlind :=
    Attempt.all_bind client fun _ => Attempt.all_bind ⟨trivial, fun _ => trivial⟩ fun _ => trivial
  unfold lookup
  split
  · exact trivial
  · exact looked

theorem Datacenter.blind_renew (d : Datacenter) (reconnect : Bool) :
    (d.renew reconnect).run.All Action.IsBlind :=
  Attempt.all_bind (Attempt.all_session trivial trivial reconnect) fun _ =>
    Attempt.all_bind ⟨trivial, fun _ => trivial⟩ fun _ => trivial

namespace Node

open Attempt

theorem blind_nodes (op : Nodes.Op) : (nodes op).run.All Action.IsBlind := all_nodes trivial

theorem blind_find (uuid name : String) : (find uuid name).run.All Action.IsBlind :=
  all_bind (all_search trivial) fun _ => all_bind (blind_nodes _) fun _ => trivial

theorem blind_guarded (name : String) {body tidy : Attempt Unit}
    (hb : body.run.All Action.IsBlind) (ht : tidy.run.All Action.IsBlind) :
    (guarded name body tidy).run.All Action.IsBlind :=
  all_bind (blind_nodes _) fun _ => all_bind (blind_nodes _) fun _ =>
    all_outcome_bind hb fun _ => all_bind (blind_nodes _) fun _ => all_bind ht fun _ =>
      all_bind (blind_nodes _) fun _ => trivial

theorem blind_register (uuid name : String) : (register uuid name).run.All Action.IsBlind := by
  refine blind_guarded name (all_bind (blind_nodes _) fun old => ?_) trivial
  have found : (do
      let m ← find uuid name
      if uuid = "" then
        let _ ← Attempt.nodes (.setUuid name m.uuid) : Attempt Unit).run.All Action.IsBlind := by
    refine all_bind (blind_find uuid name) fun m => ?_
    split
    · exact all_bind (blind_nodes _) fun _ => trivial
    · exact trivial
  cases old with
  | none => exact found
  | some old =>
    dsimp only
    split
    · exact all_bind (blind_nodes _) fun _ => found
    · exact found

theorem blind_unregister (name : String) : (unregister name).run.All Action.IsBlind := by
  have leave : (leave name).run.All Action.IsBlind := by
    refine all_bind (blind_nodes _) fun old => ?_
    cases old with
    | none => exact trivial
    | some uuid => exact blind_nodes _
  refine all_bind (blind_nodes _) fun known => ?_
  split
  · exact trivial
  · exact blind_guarded name leave (blind_nodes _)

theorem blind_uuid (name : String) : (uuid name).run.All Action.IsBlind :=
  all_uuid (fun _ => trivial) (fun _ => trivial) name

theorem blind_renew (m : VirtualMachine) (reconnect : Bool) :
    (m.renew reconnect).run.All Action.IsBlind :=
  m.all_renew trivial trivial (fun _ => trivial) reconnect

theorem blind_machine (uuid name : String) : (machine uuid name).run.All Action.IsBlind := by
  refine all_bind (blind_nodes _) fun known => ?_
  cases known with
  | none => exact blind_find uuid name
  | some m =>
    exact all_bind (blind_renew m true) fun _ => all_bind (blind_nodes _) fun _ => trivial

theorem blind_machineOf (name : String) : (machineOf name).run.All Action.IsBlind :=
  all_bind (blind_uuid name) fun uuid => blind_machine uuid name

theorem blind_sweep : sweep.run.All Action.IsBlind :=
  all_sweep (fun _ => trivial) (fun _ => trivial) (fun _ _ => trivial) (fun _ => trivial)
    fun _ => trivial

end Node

namespace Csi

open Attempt

theorem Operation.blind_attempt (v : Volumes) (o : Operation) :
    (o.attempt v).run.All Action.IsBlind := by
  have need (what text : String) : (need what text).run.All Action.IsBlind := by
    unfold Csi.need
    split <;> exact trivial
  have plan : o.plan.run.All Action.IsBlind := by
    cases o with
    | create r =>
      refine all_bind (need _ _) fun _ => ?_
      split <;> exact trivial
    | delete id | expand id bytes capability => exact all_bind (need _ _) fun _ => trivial
    | publish id node | unpublish id node =>
      exact all_bind (need _ _) fun _ => all_bind (need _ _) fun _ =>
        all_bind (Node.blind_machineOf node) fun _ => trivial
  rw [attempt_plan]
  exact all_bind plan fun p => all_bind (p.work.all_attempt Action.talk_blind v) fun _ => trivial

theorem blind_ready (v : Volumes) : (ready v).Blind := by
  refine ⟨fun x y hx => ?_, fun x => ?_⟩
  · cases x with
    | error e =>
      cases y with
      | error e' => rfl
      | ok c => cases hx
    | ok c =>
      cases y with
      | error e => cases hx
      | ok c' => rfl
  · cases x <;> exact trivial

end Csi

variable {R : Type} {E : R → R → Prop}

/-- The second world is like the first, its passwords and its planes aside. -/
structure World.Alike (E : R → R → Prop) (w w' : World R) : Prop where
  net : w.net.Alike E w'.net
  nodes : w.nodes = w'.nodes

namespace World.Alike

variable {w w' : World R} (h : w.Alike E w')
include h

theorem onNet {α : Type} {f g : Network R → α × Network R}
    (hf : Agree (Network.Alike E) (f w.net) (g w'.net)) :
    Agree (Alike E) (World.onNet f w) (World.onNet g w') :=
  ⟨hf.answer, hf.left, h.nodes⟩

theorem config (host : String) :
    (((·.config) <$> Network.handle host).run.run w.net).1.map Center.Config.veiled =
        (((·.config) <$> Network.handle host).run.run w'.net).1.map Center.Config.veiled ∧
      (((·.config) <$> Network.handle host).run.run w.net).2 = w.net ∧
      (((·.config) <$> Network.handle host).run.run w'.net).2 = w'.net := by
  rw [Network.run_config, Network.run_config]
  obtain ⟨hn, hn'⟩ | ⟨hd, hd', hn, hn', hh⟩ := h.net.known host
  · rw [hn, hn']
    exact ⟨rfl, rfl, rfl⟩
  · rw [hn, hn']
    exact ⟨congrArg (fun k : Center.Handle => Except.ok k.config) hh, rfl, rfl⟩

variable [Remote R] (hE : Remote.Discreet E)
include hE

theorem perform (env : Setting) (a : Action) :
    a.Same (w.perform env a).1 (w'.perform env a).1 ∧
      (w.perform env a).2.Alike E (w'.perform env a).2 := by
  have parts {α : Type} {x y : α × World R} (hx : Agree (Alike E) x y) :
      x.1 = y.1 ∧ x.2.Alike E y.2 := ⟨hx.answer, hx.left⟩
  cases a with
  | center host =>
    obtain ⟨answer, hn, hn'⟩ := h.config host
    refine ⟨answer, ?_, h.nodes⟩
    show Network.Alike E (((·.config) <$> Network.handle host).run.run w.net).2 _
    rw [hn]
    show Network.Alike E _ (((·.config) <$> Network.handle host).run.run w'.net).2
    rw [hn']
    exact h.net
  | connect host => exact parts (h.onNet (h.net.connect hE host))
  | client host => exact parts (h.onNet (h.net.client hE host))
  | ask s q => exact parts (h.onNet (h.net.ask hE s q))
  | sleep ms =>
    refine ⟨rfl, ?_, h.nodes⟩
    show Network.Alike E _ { w'.net with clock := w'.net.clock + ms }
    rw [← h.net.clock]
    exact h.net.wait _
  | search q => exact parts (h.onNet ((Network.Alike.twins hE).search h.net env.pool .endless q))
  | clusterUuid node => exact ⟨rfl, h⟩
  | nodes op =>
    obtain ⟨net, nodes⟩ := w
    obtain ⟨net', nodes'⟩ := w'
    obtain ⟨hn, rfl⟩ := h
    exact ⟨rfl, hn, rfl⟩

theorem performs {env : Setting} {a : Action} {x : a.Answer} {v : World R}
    (hx : w.Performs env a x v) :
    ∃ y v', w'.Performs env a y v' ∧ a.Same x y ∧ v.Alike E v' := by
  cases hx with
  | act =>
    obtain ⟨same, left⟩ := h.perform hE env a
    exact ⟨_, _, .act a, same, left⟩
  | search hq hf hd =>
    have twins := Network.Alike.twins hE
    obtain ⟨t, es, hf', left⟩ :=
      (Search.State.beside_start twins h.net _ env.pool false).follow twins hf
    obtain ⟨-, phase, -⟩ := left.common
    exact ⟨_, _, .search hq hf' (phase.trans hd), left.outcome, left.nets, h.nodes⟩

theorem run (env : Setting) {α : Type} {p : Proc α} (hp : p.Blind) :
    Agree (Alike E) (p.run env w) (p.run env w') := by
  induction p generalizing w w' with
  | done a => exact ⟨rfl, h⟩
  | act a next ih =>
    obtain ⟨same, left⟩ := h.perform hE env a
    show Agree _ ((next (w.perform env a).1).run env _) ((next (w'.perform env a).1).run env _)
    rw [← hp.1 _ _ same]
    exact ih _ left (hp.2 _)

omit hE h in
/-- Whatever a procedure comes to in one world, it may come to in the other. -/
theorem runs (hE : Remote.Discreet E) {env : Setting} {α : Type} {p : Proc α} {v w' : World R}
    {r : α} (hr : p.Runs env w r v) (h : w.Alike E w') (hp : p.Blind) :
    ∃ v', p.Runs env w' r v' ∧ v.Alike E v' := by
  induction hr generalizing w' with
  | done a w => exact ⟨w', .done a w', h⟩
  | act hx hr ih =>
    obtain ⟨y, u', hy, same, left⟩ := h.performs hE hx
    rw [hp.1 _ _ same] at ih
    obtain ⟨v', hv, left⟩ := ih left (hp.2 _)
    exact ⟨v', .act hy hv, left⟩

end World.Alike

end StorageDriver
