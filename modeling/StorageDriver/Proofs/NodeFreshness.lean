import StorageDriver.Proofs.SearchRuns
import StorageDriver.Proofs.UsedWorlds

namespace StorageDriver

def Action.IsApart : Action → Prop
  | .clusterUuid _ | .nodes _ => True
  | _ => False

def Plane.visited (p : Plane) : Plane :=
  { p with calls := { p.calls with
      connects := p.calls.connects + 1
      getVm := p.calls.getVm + 1 } }

namespace Network

variable {n n' : Network Fleet} {host : String}

theorem connected (hn : n.Proper) (h : (connect host).run.run n = (.ok (), n')) :
    (∃ p, n.planes.get? host = some p ∧ n'.planes = n.planes.put host (p.connect host).2) ∧
      (client host).run.run n' = (.ok ⟨host, 0⟩, n') := by
  rw [run_connect] at h
  cases hc : n.centers.get? host with
  | none =>
    rw [hc] at h
    cases h
  | some hd =>
    have hh := (hn host hd hc).1
    rw [hc] at h
    dsimp only at h
    unfold dialed at h
    rw [Fleet.run_connect, hh] at h
    cases hp : n.planes.get? host with
    | none =>
      rw [hp] at h
      cases h
    | some p =>
      rw [hp] at h
      dsimp only at h
      cases hr : (p.connect host).1 with
      | error e =>
        rw [hr] at h
        cases h
      | ok u =>
        simp only [hr, Except.map] at h
        obtain ⟨-, rfl⟩ := Prod.mk.inj h
        refine ⟨⟨p, rfl, rfl⟩, ?_⟩
        rw [run_client, Table.get?_put, if_pos rfl]

end Network

section

variable {env : Setting} {w w' : World Fleet} {m m' : VirtualMachine}

theorem VirtualMachine.visits (hw : w.net.Proper)
    (h : (m.renew true).execute env w = (.ok m', w')) :
    ∃ p, w.net.planes.get? m.host = some p ∧
      w'.net.planes = w.net.planes.put m.host p.visited := by
  obtain ⟨s, u, hs, h⟩ := Attempt.ok_of_execute_bind h
  obtain ⟨i, u', hi, h⟩ := Attempt.ok_of_execute_bind h
  obtain rfl : u' = w' := (Prod.mk.inj h).2
  obtain ⟨⟨⟩, v, hc, hs⟩ := Attempt.ok_of_execute_bind hs
  have accepted : ((Network.connect m.host).run.run w.net).1 = .ok () := congrArg Prod.fst hc
  have reached : ((Network.connect m.host).run.run w.net).2 = v.net := congrArg (·.2.net) hc
  obtain ⟨⟨p, hp, hv⟩, hcl⟩ := Network.connected hw (Prod.ext accepted reached)
  have answer : ((Network.client m.host).run.run v.net).1 = .ok s := congrArg Prod.fst hs
  have after : ((Network.client m.host).run.run v.net).2 = u.net := congrArg (·.2.net) hs
  obtain ⟨hs, hu⟩ := Prod.mk.inj ((Prod.ext answer after).symm.trans hcl)
  change u.net = v.net at hu
  obtain rfl := Except.ok.inj hs
  have asked : v.net.planes.get? m.host = some (p.connect m.host).2 := by
    rw [hv, Table.get?_put, if_pos rfl]
  have hn : ((Network.ask ⟨m.host, 0⟩ (.machine m.id)).run.run u.net).2 = u'.net :=
    congrArg (·.2.net) hi
  refine ⟨p, hp, ?_⟩
  rw [← hn, hu, (Network.run_ask_some (s := ⟨m.host, 0⟩) (q := .machine m.id) asked).2, hv,
    Table.put_put, Table.put_put]
  rfl

theorem VirtualMachine.leads_renew_name (m : VirtualMachine) (n : Nodes) :
    (m.renew true).Leads (fun r _ => ∀ m', r = .ok m' → m'.name = m'.info.name) n := by
  refine (Attempt.leads_session m.host true).bind (fun s k _ => ?_) fun _ _ _ => by simp
  refine (Attempt.leads_ask s (.machine m.id)).bind (fun i _ _ => ?_) fun _ _ _ => by simp
  exact Attempt.leads_pure fun m' hm' => Except.ok.inj hm' ▸ rfl

namespace Node

open Attempt

theorem net_of_uuid {name : String} {r : Except Error String}
    (h : (Node.uuid name).Runs env w r w') : w'.net = w.net := by
  have apart : (Node.uuid name).run.All Action.IsApart :=
    all_uuid (fun _ => trivial) (fun _ => trivial) name
  refine Proc.Runs.keeps (P := fun u => u.net = w.net) (fun u a x v ha hx hu => ?_) h apart rfl
  cases a with
  | clusterUuid | nodes =>
    obtain ⟨-, rfl⟩ := Prod.mk.inj (hx.direct trivial)
    exact hu
  | _ => cases ha

theorem leads_machine_name (uuid name : String) (n : Nodes) :
    (machine uuid name).Leads (fun r _ => ∀ m, r = .ok m → m.name = m.info.name) n := by
  unfold machine
  refine leads_nodes_bind ?_
  simp only [Nodes.apply]
  cases n.machines.get? uuid with
  | none =>
    refine (leads_find uuid name n).mono fun r k hk m hr => ?_
    subst hr
    cases hk with
    | found hv =>
      obtain ⟨d, i, -, rfl⟩ := hv
      rfl
  | some x =>
    refine (x.leads_renew_name n).bind (fun m k hk => ?_) fun _ _ _ => by simp
    exact leads_nodes_bind (leads_pure hk)

/-- A machine that was found before is found without a search. -/
theorem visits (hw : w.net.Proper) {uuid name : String}
    (hn : (w.nodes.machines.get? uuid).isSome = true)
    (h : (machine uuid name).Runs env w (.ok m) w') :
    ∃ x p, w.nodes.machines.get? uuid = some x ∧ m.host = x.host ∧
      w.net.planes.get? x.host = some p ∧ w'.net.planes = w.net.planes.put x.host p.visited := by
  obtain ⟨x, hx⟩ := Option.isSome_iff_exists.1 hn
  unfold machine at h
  have h := h.of_nodes_bind
  simp only [Nodes.apply, hx] at h
  obtain ⟨m', u, hr, h⟩ := h.ok_of_bind
  have hr := hr.direct (x.all_renew trivial trivial (fun _ => trivial) true)
  obtain ⟨p, hp, hu⟩ := x.visits hw hr
  obtain ⟨-, he⟩ := x.execute_renew hw hr
  have h := h.of_nodes_bind
  cases h
  exact ⟨x, p, hx, he ▸ rfl, hp, hu⟩

end Node

/-- The machine that is answered for a node has the UUID that the node has then, which is not empty.
It is as its plane documents it, and it is kept. One that was found before is fetched from its plane
over one new connection, and nothing else is asked of any plane. -/
theorem World.Used.resolves {hosts : List String} (h : w.Used hosts) (env : Setting) {name : String}
    (hm : (Node.machineOf name).Runs env w (.ok m) w') :
    m.uuid ≠ "" ∧ w'.nodes.uuids.get? name = some m.uuid ∧ m.name = m.info.name ∧
      w'.document m.host m.info.id = some m.info ∧ w'.nodes.machines.get? m.uuid = some m ∧
      ((w.nodes.machines.get? m.uuid).isSome = true →
        ∃ p, w.net.planes.get? m.host = some p ∧
          w'.net.planes = w.net.planes.put m.host p.visited) := by
  have hw := h.proper
  obtain ⟨uuid, hne, hu, kept⟩ := Node.knows_of_machineOf hm
  have sound : w'.nodes.Sound := Node.Demand.sound (d := .machineOf name) h.sound hm
  obtain rfl := sound.uuid_eq kept
  have found := Node.resolved hw hm
  unfold Node.machineOf at hm
  obtain ⟨known, u, hk, hm⟩ := hm.ok_of_bind
  have net : u.net = w.net := Node.net_of_uuid hk
  obtain ⟨-, machines, learnt⟩ := (Node.leads_uuid name w.nodes).runs hk
  have called := (Node.leads_machine_name known name u.nodes).runs hm
  -- The UUID that was found for the node is that of the machine.
  have same : m.uuid = known := by
    have fetched := (Node.leads_machine (n := u.nodes) known name fun x hx =>
      h.sound.uuid_eq (machines ▸ hx)).runs hm
    generalize w'.nodes = k at fetched
    cases fetched with
    | got hv => exact hv (learnt known rfl).1
  refine ⟨hne, hu, called m rfl, ?_, kept, fun discovered => ?_⟩
  · rw [found.owns.document]
    exact found.document
  · have proper : u.net.Proper := net.symm ▸ hw.net
    obtain ⟨x, p, -, hh, hp, hn⟩ := Node.visits proper (by rwa [machines, ← same]) hm
    rw [net, ← hh] at hp hn
    exact ⟨p, hp, hn⟩

end

namespace Solo

def searched : Search.State Fleet :=
  Search.State.advanced 16 (Search.start ⟨"n", "u"⟩ 4 false network)

def machine : VirtualMachine := searched.outcome.toOption.getD default

def registered : World Fleet where
  net := searched.net
  nodes := {
    uuids := [("n", "u")]
    machines := [("u", machine)]
    locks := [("n", 0)]
    made := [{}] }

theorem used_registered : registered.Used ["a"] := by
  have quiet : searched.next none = none :=
    Search.State.next_of_quiet (by decide +kernel) (by decide +kernel)
  have outcome : searched.outcome = .ok machine := by decide +kernel
  have hr : (Node.register "u" "n").execute {} { net := network } = (.ok (), registered) :=
    Node.execute_register_first (by decide)
      (fun nodes => outcome ▸ Search.State.execute_search rfl 16 rfl quiet) rfl
  have hw : World.Used ["a"] { net := network } :=
    .setUp "a" _ (.setUp "a" _ (.setUp "a" _ (.register center .start)))
  exact .meet (d := .register "u" "n") (Attempt.runs_of_execute hr) hw

theorem resolves_registered : ∃ m w', (Node.machineOf "n").Runs {} registered (.ok m) w' ∧
    m.uuid = "u" ∧ w'.document m.host m.info.id = some m.info ∧
    ∃ p, registered.net.planes.get? m.host = some p ∧
      w'.net.planes = registered.net.planes.put m.host p.visited := by
  have found : (((Node.machineOf "n").execute {} registered).1.toOption.any (·.uuid = "u")) =
      true := by decide +kernel
  have hw := used_registered
  have kept : (registered.nodes.machines.get? "u").isSome = true := rfl
  generalize registered = w at *
  obtain ⟨m, hm, hu⟩ := (Option.any_eq_true _ _).1 found
  have hu := of_decide_eq_true hu
  have hx : (Node.machineOf "n").Runs {} w (.ok m) _ :=
    Attempt.runs_of_execute (Prod.ext (ok_of_toOption hm) rfl)
  obtain ⟨-, -, -, hd, -, visited⟩ := hw.resolves {} hx
  exact ⟨m, _, hx, hu, hd, visited (hu ▸ kept)⟩

end Solo

end StorageDriver
