import StorageDriver.Proofs.MachineWork
import StorageDriver.Proofs.NodeLearning

namespace StorageDriver

def Nodes.Knows (n : Nodes) (name : String) (m : VirtualMachine) : Prop :=
  ∃ uuid, uuid ≠ "" ∧ n.uuids.get? name = some uuid ∧ n.machines.get? uuid = some m

namespace Node

open Attempt

theorem leads_machineOf_knows (name : String) (n : Nodes) :
    (machineOf name).Leads (fun r k => ∀ m, r = .ok m → k.Knows name m) n := by
  refine (leads_uuid name n).bind (fun uuid n hn => ?_) fun _ _ _ => nofun
  obtain ⟨hne, hu⟩ := hn.2.2 uuid rfl
  unfold machine
  refine leads_nodes_bind ?_
  simp only [Nodes.apply]
  cases hm : n.machines.get? uuid with
  | none =>
    refine (leads_find uuid name n).mono fun r k hk m hr => ?_
    subst hr
    cases hk with
    | found hv =>
      obtain rfl : m.uuid = uuid := hv.uuid hne
      exact ⟨m.uuid, hne, hu, by simp⟩
  | some x =>
    refine (x.leads_renew true n).bind (fun m k hk => ?_) fun _ _ _ => nofun
    obtain ⟨rfl, -⟩ := hk
    refine leads_nodes_bind (leads_pure fun m' hm' => ?_)
    obtain rfl := Except.ok.inj hm'
    simp only [Nodes.apply, Table.has_eq_isSome, hm, Option.isSome_some, if_true]
    exact ⟨uuid, hne, hu, by simp⟩

variable {env : Setting} {w w' : World Fleet} {name : String} {m x : VirtualMachine}

theorem knows_of_machineOf (h : (machineOf name).Runs env w (.ok m) w') : w'.nodes.Knows name m :=
  (leads_machineOf_knows name w.nodes).runs h m rfl

theorem machineOf_of_knows (hw : w.Proper) (hk : w.nodes.Knows name x)
    (h : (machineOf name).Runs env w (.ok m) w') : m.host = x.host ∧ m.id = x.id := by
  obtain ⟨uuid, hne, hu, hx⟩ := hk
  have known : (Node.uuid name).execute env w = (.ok uuid, w) := by
    unfold Node.uuid
    rw [execute_nodes_bind]
    simp only [Nodes.apply, hu, if_pos hne]
    rfl
  unfold machineOf at h
  obtain ⟨uuid', u, hu', h⟩ := h.ok_of_bind
  have direct := hu'.direct (all_uuid (fun _ => trivial) (fun _ => trivial) name)
  obtain ⟨he, rfl⟩ := Prod.mk.inj (known.symm.trans direct)
  obtain rfl := Except.ok.inj he
  unfold machine at h
  have h := h.of_nodes_bind
  simp only [Nodes.apply, hx] at h
  obtain ⟨m', u', hr, h⟩ := h.ok_of_bind
  have h := h.of_nodes_bind
  cases h
  have renewed := hr.direct (x.all_renew trivial trivial (fun _ => trivial) true)
  obtain ⟨hd, he⟩ := x.execute_renew hw.net renewed
  obtain ⟨ms, -, hi⟩ := Option.bind_eq_some_iff.1 hd
  have hid : m.info.id = x.id := by simpa using List.find?_some hi
  exact ⟨congrArg (·.host) he, hid⟩

end Node

/-- It has nothing to do with the nodes. -/
def Action.IsRemote : Action → Prop
  | .nodes _ => False
  | _ => True

theorem Proc.Runs.nodes {α : Type} {env : Setting} {w w' : World Fleet} {p : Proc α} {r : α}
    (h : p.Runs env w r w') (hp : p.All Action.IsRemote) : w'.nodes = w.nodes := by
  refine h.keeps (P := fun u => u.nodes = w.nodes) (fun u a x v ha hx hu => ?_) hp rfl
  cases hx with
  | search => exact hu
  | act =>
    cases a with
    | nodes op => exact ha.elim
    | _ => exact hu

theorem Action.talk_remote : Action.Talk Action.IsRemote :=
  ⟨fun _ => trivial, fun _ => trivial, fun _ _ => trivial, fun _ => trivial⟩

namespace Work

theorem remote_attempt (v : Volumes) (o : Work) : (o.attempt v).run.All Action.IsRemote :=
  o.all_attempt Action.talk_remote v

end Work

theorem Volumes.nodes_of_attach {env : Setting} {w w' : World Fleet} {v : Volumes}
    {m : VirtualMachine} {id : String} {r : Except Error VirtualMachine}
    (h : (v.attach m id).execute env w = (r, w')) : w'.nodes = w.nodes :=
  Proc.Runs.nodes (Attempt.runs_of_execute h) (Work.remote_attempt v (.attach m id))

end StorageDriver
