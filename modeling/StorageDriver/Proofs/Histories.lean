import StorageDriver.Proofs.MachineWork

namespace StorageDriver

namespace Plane

/-- What is done to a plane behind the driver's back. -/
inductive Setup
  | datacenter (id name : String)
  | vm (datacenter name uuid : String)
  | volume (dataStore name : String) (size : Double)
  | vmState (id state : String)
  | task (id : String) (states : List String)
  | nextCommand (states : List String)
  | failures (f : Failures)
  | listDelay (ms : Option Nat)

def Setup.apply (p : Plane) : Setup → Plane
  | datacenter id name => p.addDatacenter id name
  | vm home name uuid => (p.addVm home name uuid).2
  | volume dataStore name size => (p.addVolume dataStore name size).2
  | vmState id state => p.setVmState id state
  | task id states => p.scriptTask id states
  | nextCommand states => p.scriptNextCommand states
  | failures f => { p with failures := f }
  | listDelay ms => { p with listDelay := ms }

/-- Machines are numbered, and their disks are as `D` says. -/
structure Holds (D : List DiskInfo → Prop) (p : Plane) : Prop where
  numbers : p.Numbers
  disks : ∀ i ∈ p.machines, D i.disks

section

variable {p q : Plane}

theorem Numbers.of_ids (h : p.Numbers) (hm : q.machines.map (·.id) = p.machines.map (·.id))
    (hn : p.nextId ≤ q.nextId) : q.Numbers := by
  refine ⟨hm ▸ h.nodup, fun m hq => ?_⟩
  obtain ⟨m', hp, he⟩ := List.mem_map.1 (hm ▸ List.mem_map_of_mem hq)
  obtain ⟨k, hk, hi⟩ := h.given m' hp
  exact ⟨k, Nat.lt_of_lt_of_le hk hn, he.symm.trans hi⟩

theorem mem_modifyFirst {α : Type} {hit : α → Bool} {f : α → α} {as : List α} {b : α}
    (h : b ∈ modifyFirst hit f as) : b ∈ as ∨ ∃ a ∈ as, f a = b := by
  induction as with
  | nil => cases h
  | cons a as ih =>
    rw [modifyFirst] at h
    split at h
    · obtain rfl | h := List.mem_cons.1 h
      · exact .inr ⟨a, List.mem_cons_self, rfl⟩
      · exact .inl (List.mem_cons_of_mem _ h)
    · obtain rfl | h := List.mem_cons.1 h
      · exact .inl List.mem_cons_self
      · obtain h | ⟨c, hc, hb⟩ := ih h
        · exact .inl (List.mem_cons_of_mem _ h)
        · exact .inr ⟨c, List.mem_cons_of_mem _ hc, hb⟩

end

namespace Holds

variable {D : List DiskInfo → Prop} {p q : Plane}

theorem of_machines (h : p.Holds D) (hm : q.machines = p.machines) (hn : p.nextId ≤ q.nextId) :
    q.Holds D where
  numbers := h.numbers.of_ids (congrArg _ hm) hn
  disks := hm ▸ h.disks

theorem of_estate (h : p.Holds D) (he : q.estate = p.estate) : q.Holds D := by
  have hm : q.estate.machines = p.estate.machines := congrArg machines he
  have hn : p.estate.nextId = q.estate.nextId := congrArg nextId he.symm
  exact h.of_machines hm (Nat.le_of_eq hn)

theorem setUp (h : p.Holds D) (nil : D []) (x : Setup) : (x.apply p).Holds D := by
  cases x with
  | vm datacenter name uuid =>
    refine ⟨h.numbers.addVm datacenter name uuid, fun i hi => ?_⟩
    obtain hi | hi := List.mem_append.1 hi
    · exact h.disks i hi
    · exact List.mem_singleton.1 hi ▸ nil
  | volume dataStore name size => exact h.of_machines rfl (Nat.le_succ _)
  | vmState id state =>
    have hm : (Setup.apply p (.vmState id state)).machines.map (·.id) = p.machines.map (·.id) :=
      map_modifyFirst (f := fun i => { i with state := state }) (fun _ _ => rfl) p.machines
    refine ⟨h.numbers.of_ids hm (Nat.le_refl _), fun i hi => ?_⟩
    obtain hi | ⟨j, hj, rfl⟩ := mem_modifyFirst hi
    · exact h.disks i hi
    · exact h.disks j hj
  | _ => exact h.of_machines rfl (Nat.le_refl _)

theorem obey (h : p.Holds D) {c : Command}
    (hc : ∀ doc, c = .putMachine doc → D (kept doc).disks) : (p.obey c).2.Holds D := by
  have done (q : Plane) (hm : q.machines = p.machines) (hn : p.nextId ≤ q.nextId) :
      q.accept.2.Holds D :=
    h.of_machines hm (Nat.le_succ_of_le hn)
  cases c with
  | putMachine doc =>
    have hm := machines_put (p := p) doc
    have hn : p.nextId ≤ (p.obey (.putMachine doc)).2.nextId := by
      simp only [Plane.obey]
      split
      · exact Nat.le_succ _
      · exact Nat.le_refl _
    refine ⟨h.numbers.of_ids ?_ hn, fun i hi => ?_⟩
    · exact (congrArg _ hm).trans (ids_stored doc p.machines)
    · have hi : i ∈ stored doc p.machines := hm ▸ hi
      obtain hi | ⟨j, -, rfl⟩ := mem_modifyFirst hi
      · exact h.disks i hi
      · exact hc doc rfl
  | createVolume order =>
    simp only [Plane.obey]
    split
    · exact done _ rfl (Nat.le_succ _)
    · exact h
  | deleteVolume id wipe | putVolume doc =>
    simp only [Plane.obey]
    split
    · exact done _ rfl (Nat.le_refl _)
    · exact h

end Holds

end Plane

namespace Fleet

def setUp (f : Fleet) (host : String) (x : Plane.Setup) : Fleet :=
  (f.get? host).elim f fun p => f.put host (x.apply p)

/-- There are planes of `hosts` only, and they are as they should be. -/
def Holds (hosts : List String) (D : List DiskInfo → Prop) (f : Fleet) : Prop :=
  ∀ host p, f.get? host = some p → host ∈ hosts ∧ p.Holds D

variable {hosts : List String} {D : List DiskInfo → Prop} {f g : Fleet} {host : String} {p : Plane}

theorem Holds.put (h : f.Holds hosts D) (hh : host ∈ hosts) (hp : p.Holds D) :
    Holds hosts D (f.put host p) := by
  intro k q hq
  rw [Table.get?_put] at hq
  split at hq
  · rename_i hk
    exact ⟨hk ▸ hh, Option.some.inj hq ▸ hp⟩
  · exact h k q hq

theorem Holds.setUp (h : f.Holds hosts D) (nil : D []) (host : String) (x : Plane.Setup) :
    (f.setUp host x).Holds hosts D := by
  unfold Fleet.setUp
  cases hp : f.get? host with
  | none => exact h
  | some p =>
    obtain ⟨hh, hp⟩ := h host p hp
    exact h.put hh (hp.setUp nil x)

theorem Holds.of_estates (h : f.Holds hosts D) (he : g.estates = f.estates) : g.Holds hosts D := by
  intro host q hq
  obtain ⟨p, hp, hpq⟩ := exists_of_estates he.symm hq
  exact (h host p hp).imp_right fun h => h.of_estate hpq.symm

theorem Holds.numbered (h : f.Holds hosts D) : f.Numbered := by
  intro host ms hm
  obtain ⟨p, hp, rfl⟩ := Option.map_eq_some_iff.1 hm
  exact (h host p hp).2.numbers.nodup

theorem holds_ofPlanes {planes : List Plane} (h : ∀ p ∈ planes, p.host ∈ hosts ∧ p.Holds D) :
    (ofPlanes planes).Holds hosts D := by
  suffices ∀ f : Fleet, f.Holds hosts D →
      Holds hosts D (planes.foldl (fun fleet p => fleet.put p.host p) f) from this [] nofun
  induction planes with
  | nil => exact fun f hf => hf
  | cons p planes ih =>
    intro f hf
    obtain ⟨hh, hp⟩ := h p List.mem_cons_self
    exact ih (fun q hq => h q (List.mem_cons_of_mem _ hq)) _ (hf.put hh hp)

theorem Holds.document (h : f.Holds hosts D) {id : String} {i : VmInfo}
    (hd : f.document host id = some i) : host ∈ hosts ∧ D i.disks := by
  obtain ⟨ms, hm, hi⟩ := Option.bind_eq_some_iff.1 hd
  obtain ⟨p, hp, rfl⟩ := Option.map_eq_some_iff.1 hm
  exact (h host p hp).imp_right fun h => h.disks i (List.mem_of_find?_eq_some hi)

end Fleet

def Work.machine? : Work → Option VirtualMachine
  | attach m _ | detach m _ => some m
  | _ => none

namespace Csi.Operation

variable {env : Setting} {w u : World Fleet}

theorem execute_need_bind {α : Type} (what text : String) (f : Attempt α) (w : World Fleet) :
    (do need what text; f).execute env w =
      if text = "" then (.error (.invalidArgument (what ++ " is empty")), w)
      else f.execute env w := by
  rw [Attempt.execute_bind, execute_need]
  by_cases h : text = ""
  · rw [if_pos h, if_pos h]
  · rw [if_neg h, if_neg h]

/-- What a plan that was made is about, and whether it has an answer to whatever its work comes
to. -/
inductive Planned (env : Setting) (w : World Fleet) :
    (o : Operation) → Plan o.Answer → World Fleet → Prop
  | free {o : Operation} {p : Plan o.Answer} {u} (machine : p.work.machine? = none)
      (sure : ∀ a, ∃ b, p.answer a = .ok b) : Planned env w o p u
  | unpublish {id node m u} (found : (Node.machineOf node).Runs env w (.ok m) u) :
    Planned env w (.unpublish id node) { work := .detach m id, answer := .ok } u
  | publish {id node m u} (found : (Node.machineOf node).Runs env w (.ok m) u) :
    Planned env w (.publish id node) {
      work := .attach m id
      answer := fun m =>
        (Volumes.scsiId m id).map fun scsi => [("type", "ics-disk"), ("diskUUID", scsi)] } u

theorem planned {o : Operation} {p : Plan o.Answer} (h : o.plan.Runs env w (.ok p) u) :
    Planned env w o p u := by
  cases o with
  | create r =>
    obtain ⟨_, _, -, hx⟩ := h.ok_of_bind
    split at hx
    · cases hx
    · cases hx
    · cases hx
      exact .free rfl fun _ => ⟨_, rfl⟩
  | delete id | expand id bytes capability =>
    obtain ⟨_, _, -, hx⟩ := h.ok_of_bind
    cases hx
    exact .free rfl fun _ => ⟨_, rfl⟩
  | publish id node =>
    obtain ⟨m, u', found, hx⟩ := resolved_of_ok h
    cases hx
    exact .publish found
  | unpublish id node =>
    obtain ⟨m, u', found, hx⟩ := resolved_of_ok h
    cases hx
    exact .unpublish found

/-- The machine that a plan is about is there. -/
theorem machine_of_plan (hw : w.Proper) {o : Operation} {p : Plan o.Answer}
    (h : o.plan.Runs env w (.ok p) u) {m : VirtualMachine} (hm : m ∈ p.work.machine?) :
    w.document m.host m.id = some m.info := by
  cases planned h with
  | free machine =>
    rw [machine] at hm
    cases hm
  | unpublish found | publish found =>
    obtain rfl := Option.some.inj hm
    exact (Node.resolved hw found).document

end Csi.Operation

namespace Network

variable {R : Type}

theorem planes_register (n : Network R) (c : Center.Config) : (n.register c).planes = n.planes := by
  unfold Network.register
  split <;> rfl

theorem run_unregister (host : String) (n : Network R) :
    (unregister host).run.run n = match n.centers.get? host with
      | some _ => (.ok (), { n with centers := n.centers.erase host })
      | none => (.error (.notRegistered host), n) := by
  unfold unregister
  rw [Call.run_bind, run_handle]
  cases n.centers.get? host <;> rfl

theorem planes_unregister (n : Network R) (host : String) :
    ((unregister host).run.run n).2.planes = n.planes := by
  rw [run_unregister]
  cases n.centers.get? host <;> rfl

theorem Proper.unregister {n : Network R} (h : n.Proper) (host : String) :
    ((Network.unregister host).run.run n).2.Proper := by
  rw [run_unregister]
  cases n.centers.get? host with
  | none => exact h
  | some hd =>
    intro k hk hg
    simp only [Table.get?_erase] at hg
    split at hg
    · cases hg
    · exact h k hk hg

end Network

namespace World

variable {env : Setting} {w w' : World Fleet}

/-- All of a world that has been used so far: worlds, with the handles on machines that somebody
has. Work is done where `may` allows it, on a handle however old or on the machine that a call has
found for its node. A call that comes to no work is an enquiry. -/
inductive History (hosts : List String) (may : Work → Prop) :
    World Fleet → List VirtualMachine → Prop
  | start : History hosts may
      { net := { planes := .ofPlanes (hosts.map fun host => { host := host }) } } []
  | register {w ms} (c : Center.Config) (h : History hosts may w ms) :
    History hosts may { w with net := w.net.register c } ms
  | unregister {w ms} (host : String) (h : History hosts may w ms) :
    History hosts may { w with net := ((Network.unregister host).run.run w.net).2 } ms
  | setUp {w ms} (host : String) (x : Plane.Setup) (h : History hosts may w ms) :
    History hosts may { w with net := { w.net with planes := w.net.planes.setUp host x } } ms
  | enquire {w ms} {α : Type} {env : Setting} {p : Attempt α} {r : Except Error α}
    {w' : World Fleet}
      (hp : p.run.All Action.IsEnquiry) (hr : p.Runs env w r w') (h : History hosts may w ms) :
    History hosts may w' ms
  | keep {w ms} (host : String) (m : VirtualMachine) (hd : w.document host m.id = some m.info)
      (h : History hosts may w ms) : History hosts may w (m :: ms)
  | work {w ms} {env : Setting} {v : Volumes} {o : Work} {r : Except Error o.Answer}
      {w' : World Fleet} (held : ∀ m ∈ o.machine?, m ∈ ms) (ho : may o)
      (hr : (o.attempt v).Runs env w r w') (h : History hosts may w ms) : History hosts may w' ms
  | call {w ms} {env : Setting} {v : Volumes} {o : Csi.Operation} {p : Csi.Plan o.Answer}
      {u : World Fleet} {r : Except Error p.work.Answer} {w' : World Fleet}
      (hp : o.plan.Runs env w (.ok p) u) (ho : may p.work) (hr : (p.work.attempt v).Runs env u r w')
      (h : History hosts may w ms) : History hosts may w' ms

/-- What holds of no disks and is kept by the work that may be done. -/
structure DiskLaw (may : Work → Prop) (D : List DiskInfo → Prop) : Prop where
  nil : D []
  attach : ∀ m u, may (.attach m u.id) → D m.info.disks →
    D (Plane.kept (m.info.withDisk u)).disks
  detach : ∀ m id, may (.detach m id) → D m.info.disks →
    D (Plane.kept (m.info.withoutDisk id)).disks

variable {hosts : List String} {may : Work → Prop} {D : List DiskInfo → Prop}
  {ms : List VirtualMachine}

theorem holds_work (hD : DiskLaw may D) (hw : w.Proper) (h : w.net.planes.Holds hosts D)
    {v : Volumes} {o : Work} {r : Except Error o.Answer} (hr : (o.attempt v).Runs env w r w')
    (ho : may o) (hm : ∀ m ∈ o.machine?, D m.info.disks) : w'.net.planes.Holds hosts D := by
  obtain ⟨-, hn⟩ | ⟨c, p, hc, hp, hn, -⟩ := Work.course hw (hr.direct (o.direct_attempt v))
  · exact h.of_estates hn
  · obtain ⟨hh, hp⟩ := h v.host p hp
    refine (h.put hh (hp.obey fun doc hd => ?_)).of_estates hn
    subst hd
    cases o with
    | attach m id =>
      obtain ⟨u, hu, hd⟩ := hc
      obtain rfl := Command.putMachine.inj hd
      have hi : u.id = id := Fleet.id_of_volume? hu
      exact hD.attach m u (hi ▸ ho) (hm m rfl)
    | detach m id =>
      obtain ⟨-, hd⟩ := hc
      obtain rfl := Command.putMachine.inj hd
      exact hD.detach m id ho (hm m rfl)
    | create spec | delete id wipe => cases hc
    | expand id capacity =>
      obtain ⟨u, -, hd⟩ := hc
      cases hd

/-- What the work that is done keeps is true of every machine and of every handle. -/
theorem History.holds (hD : DiskLaw may D) (h : History hosts may w ms) :
    w.Proper ∧ w.net.planes.Holds hosts D ∧ ∀ m ∈ ms, D m.info.disks := by
  induction h with
  | start =>
    have hp : ∀ p ∈ hosts.map fun host => ({ host := host } : Plane),
        p.host ∈ hosts ∧ p.Holds D := by
      intro p hp
      obtain ⟨host, hh, rfl⟩ := List.mem_map.1 hp
      exact ⟨hh, Plane.numbers_of_nil rfl, nofun⟩
    exact ⟨proper_of_planes (fun p h => (hp p h).2.numbers) {}, Fleet.holds_ofPlanes hp, nofun⟩
  | register c h ih =>
    obtain ⟨hw, hh, hm⟩ := ih
    exact ⟨hw.register c, (Network.planes_register _ c).symm ▸ hh, hm⟩
  | @unregister w ms host h ih =>
    obtain ⟨hw, hh, hm⟩ := ih
    have hp := Network.planes_unregister w.net host
    exact ⟨⟨hw.net.unregister host, hp.symm ▸ hw.numbered⟩, hp.symm ▸ hh, hm⟩
  | setUp host x h ih =>
    obtain ⟨hw, hh, hm⟩ := ih
    have hs := hh.setUp hD.nil host x
    exact ⟨⟨hw.net, hs.numbered⟩, hs, hm⟩
  | enquire hp hr h ih =>
    obtain ⟨hw, hh, hm⟩ := ih
    exact ⟨proper_of_runs hw hr, hh.of_estates (Attempt.owns_of_all hp hr), hm⟩
  | keep host m hd h ih =>
    obtain ⟨hw, hh, hm⟩ := ih
    refine ⟨hw, hh, fun m' hm' => ?_⟩
    obtain rfl | hm' := List.mem_cons.1 hm'
    · exact (hh.document hd).2
    · exact hm m' hm'
  | work held ho hr h ih =>
    obtain ⟨hw, hh, hm⟩ := ih
    exact ⟨proper_of_runs hw hr, holds_work hD hw hh hr ho fun m hm' => hm m (held m hm'), hm⟩
  | @call w ms env v o p u r w' hp ho hr h ih =>
    obtain ⟨hw, hh, hm⟩ := ih
    have hu := proper_of_runs hw hp
    have documents : ∀ m ∈ p.work.machine?, D m.info.disks := fun m hm =>
      (hh.document (Csi.Operation.machine_of_plan hw hp hm)).2
    have planes := hh.of_estates (o.enquires_plan.owns_of_runs hp)
    exact ⟨proper_of_runs hu hr, holds_work hD hu planes hr ho documents, hm⟩

theorem History.executed (h : History hosts may w ms) (env : Setting) (v : Volumes)
    (o : Csi.Operation) (ho : ∀ p u, o.plan.execute env w = (.ok p, u) → may p.work) :
    History hosts may ((o.attempt v).execute env w).2 ms := by
  rw [Csi.Operation.attempt_plan]
  generalize hx : Attempt.execute env _ w = x
  obtain ⟨p, u, hp, hx⟩ | ⟨e, hp, -⟩ := Attempt.of_execute_bind hx
  · obtain ⟨a, u', ha, hx⟩ | ⟨e, ha, -⟩ := Attempt.of_execute_bind hx
    · obtain ⟨-, rfl⟩ := Prod.mk.inj hx
      exact h.call (Attempt.runs_of_execute hp) (ho p u hp) (Attempt.runs_of_execute ha)
    · exact h.call (Attempt.runs_of_execute hp) (ho p u hp) (Attempt.runs_of_execute ha)
  · exact h.enquire o.enquires_plan.asks (Attempt.runs_of_execute hp)

theorem History.called (h : History hosts may w ms) {v : Volumes} {o : Csi.Operation}
    (ho : ∀ p u, o.plan.Runs env w (.ok p) u → may p.work) {r : Except Error o.Answer}
    (hr : (o.attempt v).Runs env w r w') : History hosts may w' ms := by
  rw [Csi.Operation.attempt_plan] at hr
  obtain ⟨p, u, hp, hr⟩ | ⟨e, hp, -⟩ := hr.of_bind
  · obtain ⟨a, u', ha, hr⟩ | ⟨e, ha, -⟩ := hr.of_bind
    · cases hr
      exact h.call hp (ho p u hp) ha
    · exact h.call hp (ho p u hp) ha
  · exact h.enquire o.enquires_plan.asks hp

theorem History.proper (h : History hosts may w ms) : w.Proper :=
  (h.holds (D := fun _ => True) ⟨trivial, fun _ _ _ _ => trivial, fun _ _ _ _ => trivial⟩).1

end World

namespace Solo

def center : Center.Config where
  host := "a"
  port := 443
  user := ""
  password := ""

def planes : Fleet := .ofPlanes (["a"].map fun host => { host := host })

def network : Network Fleet where
  centers := (Network.register { planes := planes } center).centers
  planes := ((planes.setUp "a" (.datacenter "dc" "")).setUp "a" (.vm "dc" "m" "u")).setUp "a"
    (.volume "ds" "pvc" (.ofNat 1))

def meet : Attempt Unit := do
  let m ← Datacenter.lookup ⟨"dc", "", "a"⟩ ⟨"", "u"⟩
  let _ ← Attempt.nodes (.setUuid "n" m.uuid)
  Attempt.nodes (.keep m.uuid m)

def world : World Fleet := (meet.execute {} { net := network }).2

theorem all_meet : meet.run.All Action.IsEnquiry := by
  have lookup : (Datacenter.lookup ⟨"dc", "", "a"⟩ ⟨"", "u"⟩).Enquires :=
    (Attempt.enquires_session "a" false).bind fun s =>
      (Attempt.enquires_ask s (q := .machines "dc") trivial).bind fun _ =>
        Attempt.enquires_ofOutcome _
  exact (lookup.bind fun m => (Attempt.enquires_nodes (.setUuid "n" m.uuid)).bind fun _ =>
    Attempt.enquires_nodes (.keep m.uuid m)).asks

theorem history (may : Work → Prop) : World.History ["a"] may world [] :=
  .enquire all_meet (Attempt.runs_execute {} meet { net := network })
    (.setUp "a" _ (.setUp "a" _ (.setUp "a" _ (.register center .start))))

def publish (w : World Fleet) : Except Error (Table String) × World Fleet :=
  (Csi.publish { host := "a" } "vol-2" "n").execute {} w

def published : World Fleet := (publish world).2

end Solo

end StorageDriver
