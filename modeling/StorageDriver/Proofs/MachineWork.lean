import StorageDriver.Proofs.MachineFrame
import StorageDriver.Proofs.Orders

namespace StorageDriver

/-- Sessions, requests and pauses are as `Q` says. -/
structure Action.Talk (Q : Action → Prop) : Prop where
  connect : ∀ host, Q (.connect host)
  client : ∀ host, Q (.client host)
  ask : ∀ s q, Q (.ask s q)
  sleep : ∀ ms, Q (.sleep ms)

theorem Action.talk_direct : Action.Talk Action.IsDirect :=
  ⟨fun _ => trivial, fun _ => trivial, fun _ _ => trivial, fun _ => trivial⟩

namespace Work

open Attempt

section

variable {Q : Action → Prop} (h : Action.Talk Q) (v : Volumes) (o : Work)
include h

theorem all_prepare : (o.prepare v).run.All Q := by
  have ask (s : Session) (q : Request) : (ask s q).run.All Q := ⟨h.ask s q, fun _ => trivial⟩
  refine all_bind ?_ fun _ => all_bind (all_session (h.connect _) (h.client _) true) fun s =>
    all_bind ?_ fun _ => trivial
  · cases o with
    | create spec =>
      simp only [check]
      split
      · exact trivial
      · split
        · exact trivial
        · exact trivial
    | _ => exact trivial
  · cases o with
    | create spec | delete id wipe => exact trivial
    | expand id capacity | attach m id => exact all_bind (ask s _) fun _ => trivial
    | detach m id =>
      simp only [order]
      split
      · exact trivial
      · exact trivial

theorem all_attempt : (o.attempt v).run.All Q := by
  have ask (s : Session) (q : Request) : (ask s q).run.All Q := ⟨h.ask s q, fun _ => trivial⟩
  rw [attempt_eq]
  refine all_bind (o.all_prepare h v) fun x => all_bind (ask x.1 _) fun t =>
    all_bind (v.poller.all_wait (h.ask _ _) h.sleep) fun _ => ?_
  cases o with
  | create spec =>
    refine all_bind (ask x.1 _) fun us => ?_
    split
    · exact trivial
    · exact trivial
  | attach m id => exact m.all_renew (h.connect _) (h.client _) (fun s => h.ask s _) false
  | delete | expand | detach => exact trivial

end

theorem direct_attempt (v : Volumes) (o : Work) : (o.attempt v).run.All Action.IsDirect :=
  o.all_attempt Action.talk_direct v

end Work

namespace Plane

theorem volumes_put (p : Plane) (doc : VmInfo) :
    (p.obey (.putMachine doc)).2.volumes = p.volumes := by
  simp only [obey]
  split <;> rfl

end Plane

theorem Fleet.any_of_document {f : Fleet} {host id : String} {p : Plane}
    (hp : f.get? host = some p) (hd : (f.document host id).isSome = true) :
    p.machines.any (·.id = id) = true := by
  obtain ⟨i, hi⟩ := Option.isSome_iff_exists.1 hd
  rw [document, machines?, hp, Option.map_some, Option.bind_some] at hi
  have hid := List.find?_some hi
  exact List.any_eq_true.2 ⟨i, List.mem_of_find?_eq_some hi, hid⟩

namespace World

variable {w w' : World Fleet} {host : String} {p : Plane} {doc : VmInfo}

/-- The machine has the document `doc`, and no other machine and no volume changed. -/
structure Puts (w : World Fleet) (host : String) (doc : VmInfo) (w' : World Fleet) : Prop where
  document : w'.document host doc.id = some doc
  spares : w.Spares host doc.id w'
  volumes : w'.net.planes.volumes? = w.net.planes.volumes?

theorem Puts.of_owns {w₀ : World Fleet} (h : w.Puts host doc w') (hn : w₀.Owns w) :
    w₀.Puts host doc w' where
  document := h.document
  spares k i hk := (h.spares k i hk).trans (congrFun (congrFun hn.document k) i)
  volumes := h.volumes.trans (Fleet.volumes?_of_estates hn)

theorem Puts.trans {w'' : World Fleet} {doc' : VmInfo} (h : w.Puts host doc w')
    (h' : w'.Puts host doc' w'') (hid : doc'.id = doc.id) : w.Puts host doc' w'' where
  document := h'.document
  spares k i hk := (h'.spares k i hk).trans (h.spares k i (hid ▸ hk))
  volumes := h'.volumes.trans h.volumes

theorem puts_of_obey (hp : w.net.planes.get? host = some p)
    (hd : (w.document host doc.id).isSome = true)
    (hn : w'.net.planes.estates =
      Fleet.estates (w.net.planes.put host (p.obey (.putMachine doc)).2)) :
    (∃ t, (p.obey (.putMachine doc)).1 = .ok t) ∧ w.Puts host (Plane.kept doc) w' := by
  have hm : (p.obey (.putMachine doc)).2.machines = Plane.stored doc p.machines :=
    Plane.machines_put doc
  have machines := Fleet.machines?_of_estates hn
  have here := Fleet.any_of_document hp hd
  refine ⟨?_, ?_, fun k i hk => ?_, ?_⟩
  · simp only [Plane.obey]
    rw [if_pos here]
    exact ⟨_, rfl⟩
  · rw [World.document, Fleet.document, machines, Fleet.machines?_put, if_pos rfl, hm,
      Option.bind_some]
    exact Plane.find_stored here
  · rw [World.document, Fleet.document, machines, Fleet.machines?_put]
    split
    · rename_i hh
      subst hh
      have hi : i ≠ doc.id := fun hi => hk ⟨rfl, hi⟩
      rw [hm, World.document, Fleet.document, Fleet.machines?, hp, Option.map_some,
        Option.bind_some, Option.bind_some, Plane.find_stored_of_ne hi]
    · rfl
  · rw [Fleet.volumes?_of_estates hn]
    funext k
    rw [Fleet.volumes?, Table.get?_put]
    split
    · rename_i hh
      subst hh
      rw [Option.map_some, p.volumes_put, Fleet.volumes?, hp, Option.map_some]
    · rfl

end World

section

variable {env : Setting} {w w' : World Fleet} {v : Volumes} {m m' : VirtualMachine} {id : String}

theorem Attempt.host_of_session (hw : w.net.Proper) {host : String} {reconnect : Bool}
    {s : Session} (h : (session host reconnect).execute env w = (.ok s, w')) : s.host = host := by
  have hl : Network.Looked w.net.planes (fun s : Session => s.host = host)
      (((session host reconnect).execute env w).1,
        ((session host reconnect).execute env w).2.net) := by
    cases reconnect with
    | true => exact looks_session host w ⟨hw, fun _ => rfl⟩
    | false => exact Network.looked_client ⟨hw, fun _ => rfl⟩ host
  rw [h] at hl
  exact hl.ok s rfl

theorem VirtualMachine.execute_renew (hw : w.net.Proper) {reconnect : Bool}
    (h : (m.renew reconnect).execute env w = (.ok m', w')) :
    w.document m.host m.id = some m'.info ∧ m' = m.renewed m'.info := by
  obtain ⟨s, u, hs, h⟩ := Attempt.ok_of_execute_bind h
  obtain ⟨i, u', hi, h⟩ := Attempt.ok_of_execute_bind h
  obtain rfl := Except.ok.inj (Prod.mk.inj h).1
  obtain ⟨hid, hd⟩ := World.document_of_ask (s := env) (congrArg Prod.fst hi)
  have hu := (Attempt.enquires_session m.host reconnect).owns hs
  rw [hid, Attempt.host_of_session hw hs, hu.document] at hd
  exact ⟨hd, rfl⟩

namespace Volumes

theorem attached (hw : w.Proper) (hd : (w.document v.host m.id).isSome = true)
    {r : Except Error VirtualMachine} (h : (v.attach m id).execute env w = (r, w')) :
    (∃ e, r = .error e) ∧ w.Owns w' ∨
      ∃ u, w.net.planes.volume? v.host id = some u ∧
        w.Puts v.host (Plane.kept (m.info.withDisk u)) w' ∧
        ∀ m', r = .ok m' → w'.document m.host m.id = some m'.info := by
  obtain h | ⟨c, p, ⟨u, hu, rfl⟩, hp, hn, -, hr⟩ := Work.course hw (o := .attach m id) h
  · exact .inl h
  · have hd : (w.document v.host (m.info.withDisk u).id).isSome = true := hd
    refine .inr ⟨u, hu, (World.puts_of_obey hp hd hn).2, fun m' hm' => ?_⟩
    obtain ⟨t, x, -, hx, ho, hc⟩ := hr m' hm'
    rw [ho.document]
    exact (m.execute_renew hx.net hc).1

theorem detached (hw : w.Proper) (hd : (w.document v.host m.id).isSome = true)
    {r : Except Error Unit} (h : (v.detach m id).execute env w = (r, w')) :
    (∃ e, r = .error e) ∧ w.Owns w' ∨
      (∃ d ∈ m.info.disks, d.id = id) ∧ w.Puts v.host (Plane.kept (m.info.withoutDisk id)) w' := by
  obtain h | ⟨c, p, ⟨hm, rfl⟩, hp, hn, -⟩ := Work.course hw (o := .detach m id) h
  · exact .inl h
  · have hd : (w.document v.host (m.info.withoutDisk id).id).isSome = true := hd
    exact .inr ⟨hm, (World.puts_of_obey hp hd hn).2⟩

theorem execute_detach_absent (h : ∀ d ∈ m.info.disks, d.id ≠ id) {s : Session}
    (hs : v.session.execute env w = (.ok s, w')) :
    (v.detach m id).execute env w =
      (.error (.invalidArgument (s!"volume {id} is not attached to " ++ m.describe)), w') := by
  have hall : (m.info.disks.all (·.id ≠ id)) = true := by simpa using h
  unfold detach
  rw [Attempt.execute_bind, hs]
  dsimp only
  rw [if_pos hall]
  rfl

end Volumes

/-- What is known once the machine of a node was found. -/
structure Node.Resolved (w : World Fleet) (m : VirtualMachine) (w' : World Fleet) : Prop where
  proper : w'.Proper
  owns : w.Owns w'
  document : w.document m.host m.id = some m.info

theorem Node.resolved {node : String} (hw : w.Proper)
    (h : (machineOf node).Runs env w (.ok m) w') : Resolved w m w' where
  proper := World.proper_of_runs hw h
  owns := (enquires_machineOf node).owns_of_runs h
  document := (frame_machineOf hw h).2.2 m rfl

theorem Node.Resolved.isSome (h : Resolved w m w') : (w'.document m.host m.id).isSome = true := by
  rw [h.owns.document, h.document]
  rfl

namespace Csi

variable {α : Type} {node : String} {f : VirtualMachine → Attempt α}

theorem attach_of_attaching {r : Except Error (Table String)}
    (h : (attaching v id m).Runs env w r w') :
    ∃ x, (v.attach m id).execute env w = (x, w') ∧ ∀ c, r = .ok c → ∃ m' d, x = .ok m' ∧
      m'.diskOf id = some d ∧ c = [("type", "ics-disk"), ("diskUUID", d.scsi)] := by
  have attach {x : Except Error VirtualMachine} {u : World Fleet}
      (ha : (v.attach m id).Runs env w x u) : (v.attach m id).execute env w = (x, u) :=
    ha.direct ((Work.attach m id).direct_attempt v)
  unfold attaching at h
  obtain ⟨m', u, ha, h⟩ | ⟨e, ha, rfl⟩ := h.of_bind
  · cases hd : m'.diskOf id with
    | none =>
      simp only [Volumes.scsiId, hd] at h
      cases h
      exact ⟨_, attach ha, nofun⟩
    | some d =>
      simp only [Volumes.scsiId, hd] at h
      cases h
      exact ⟨_, attach ha, fun c hc => ⟨m', d, rfl, hd, (Except.ok.inj hc).symm⟩⟩
  · exact ⟨_, attach ha, nofun⟩

theorem found_of_execute {a : α} (h : (onMachine id node f).execute env w = (.ok a, w')) :
    ∃ m u, (Node.machineOf node).execute env w = (.ok m, u) ∧
      (f m).execute env u = (.ok a, w') := by
  unfold onMachine at h
  obtain ⟨_, u, hn, h⟩ := Attempt.ok_of_execute_bind h
  obtain ⟨-, rfl⟩ := Prod.mk.inj ((execute_need _ _ _).symm.trans hn)
  obtain ⟨_, u, hn, h⟩ := Attempt.ok_of_execute_bind h
  obtain ⟨-, rfl⟩ := Prod.mk.inj ((execute_need _ _ _).symm.trans hn)
  exact Attempt.ok_of_execute_bind h

theorem resolved_of_ok {a : α} (h : (onMachine id node f).Runs env w (.ok a) w') :
    ∃ m, RunsOn env w node f m (.ok a) w' := by
  obtain ⟨⟨text, he⟩, -⟩ | ⟨e, he, -⟩ | found := runs_onMachine h
  · cases he
  · cases he
  · exact found

end Csi

end

end StorageDriver
