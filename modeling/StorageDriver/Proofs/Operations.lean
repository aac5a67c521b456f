import StorageDriver.Csi.Service
import StorageDriver.Proofs.Runs
import StorageDriver.Proofs.VolumeWork

namespace StorageDriver

def Action.failure? : (a : Action) → a.Answer → Option Error
  | .center _, .error e | .connect _, .error e | .client _, .error e | .ask _ _, .error e
  | .search _, .error e | .clusterUuid _, .error e => some e
  | _, _ => none

/-- A failure of any action ends it at once. -/
def Proc.Heeds {α : Type} : Proc (Except Error α) → Prop
  | done _ => True
  | act a next => ∀ x, (∀ e, a.failure? x = some e → next x = done (.error e)) ∧ (next x).Heeds

namespace Attempt

variable {α β : Type}

def Heeds (p : Attempt α) : Prop := p.run.Heeds

theorem heeds_bind {p : Attempt α} {f : α → Attempt β} (hp : p.Heeds) (hf : ∀ a, (f a).Heeds) :
    (p >>= f).Heeds := by
  unfold Heeds at hp ⊢
  rw [run_bind]
  generalize p.run = q at hp
  induction q with
  | done r =>
    cases r with
    | ok a => exact hf a
    | error e => trivial
  | act a next ih =>
    refine fun x => ⟨fun e he => ?_, ih x (hp x).2⟩
    exact congrArg (Proc.bind · _) ((hp x).1 e he)

theorem heeds_ask (s : Session) (q : Request) : (ask s q).Heeds := by
  refine fun x => ⟨fun e he => ?_, trivial⟩
  cases x with
  | ok a => cases he
  | error e' =>
    obtain rfl := Option.some.inj he
    rfl

/-- It gives no command, and a failure ends it. -/
structure Enquires (p : Attempt α) : Prop where
  asks : p.run.All Action.IsEnquiry
  heeds : p.Heeds

theorem Enquires.bind {p : Attempt α} {f : α → Attempt β} (hp : p.Enquires)
    (hf : ∀ a, (f a).Enquires) : (p >>= f).Enquires :=
  ⟨all_bind hp.asks fun a => (hf a).asks, heeds_bind hp.heeds fun a => (hf a).heeds⟩

theorem enquires_ofOutcome (r : Except Error α) : (ofOutcome r).Enquires := ⟨trivial, trivial⟩

theorem enquires_pure (a : α) : (pure a : Attempt α).Enquires := enquires_ofOutcome (.ok a)

theorem enquires_throw (e : Error) : (throw e : Attempt α).Enquires := enquires_ofOutcome (.error e)

theorem enquires_ask (s : Session) {q : Request} (hq : q.IsEnquiry) : (ask s q).Enquires :=
  ⟨⟨hq, fun _ => trivial⟩, heeds_ask s q⟩

theorem enquires_sleep (ms : Nat) : (sleep ms).Enquires :=
  ⟨⟨trivial, fun _ => trivial⟩, fun _ => ⟨nofun, trivial⟩⟩

theorem enquires_nodes (op : Nodes.Op) : (nodes op).Enquires :=
  ⟨all_nodes trivial, fun _ => ⟨nofun, trivial⟩⟩

theorem enquires_search (q : Query) : (search q).Enquires := by
  refine ⟨all_search trivial, fun x => ⟨fun e he => ?_, trivial⟩⟩
  cases x <;> cases he
  rfl

theorem enquires_clusterUuid (node : String) : (clusterUuid node).Enquires := by
  refine ⟨⟨trivial, fun _ => trivial⟩, fun x => ⟨fun e he => ?_, trivial⟩⟩
  cases x <;> cases he
  rfl

theorem enquires_session (host : String) (reconnect : Bool) :
    (session host reconnect).Enquires := by
  have hc : (client host).Enquires := by
    refine ⟨⟨trivial, fun _ => trivial⟩, fun x => ⟨fun e he => ?_, trivial⟩⟩
    cases x <;> cases he
    rfl
  have hd : (connect host).Enquires := by
    refine ⟨⟨trivial, fun _ => trivial⟩, fun x => ⟨fun e he => ?_, trivial⟩⟩
    cases x <;> cases he
    rfl
  unfold session
  cases reconnect with
  | true => exact hd.bind fun _ => hc
  | false => exact hc

end Attempt

open Attempt

theorem VirtualMachine.enquires_renew (m : VirtualMachine) (reconnect : Bool) :
    (m.renew reconnect).Enquires :=
  (enquires_session m.host reconnect).bind fun s =>
    (enquires_ask s (q := .machine m.id) trivial).bind fun _ => enquires_pure _

namespace Node

theorem enquires_find (uuid name : String) : (find uuid name).Enquires :=
  (enquires_search _).bind fun _ => (enquires_nodes _).bind fun _ => enquires_pure _

theorem enquires_uuid (name : String) : (uuid name).Enquires := by
  have fetch : (fetchUuid name).Enquires := by
    refine (enquires_clusterUuid name).bind fun known => ?_
    split
    · exact (enquires_throw _).bind fun _ => enquires_pure _
    · exact enquires_pure _
  refine (enquires_nodes _).bind fun known => ?_
  cases known with
  | none => exact enquires_throw _
  | some known =>
    dsimp only
    split
    · exact enquires_pure _
    · exact fetch.bind fun _ => (enquires_nodes _).bind fun _ => enquires_pure _

theorem enquires_machineOf (name : String) : (machineOf name).Enquires := by
  refine (enquires_uuid name).bind fun uuid => (enquires_nodes _).bind fun known => ?_
  cases known with
  | none => exact enquires_find uuid name
  | some m =>
    exact (m.enquires_renew true).bind fun _ => (enquires_nodes _).bind fun _ => enquires_pure _

end Node

namespace Poller

theorem enquires_watch (p : Poller) (s : Session) (t : Task) (fuel polls elapsed pause : Nat) :
    (p.watch s t fuel polls elapsed pause).Enquires := by
  induction fuel generalizing polls elapsed pause with
  | zero =>
    refine (enquires_ask s (q := .task t.id) trivial).bind fun info => ?_
    dsimp only
    split <;> exact enquires_pure _
  | succ fuel ih =>
    refine (enquires_ask s (q := .task t.id) trivial).bind fun info => ?_
    dsimp only
    split
    · exact enquires_pure _
    · exact (enquires_sleep _).bind fun _ => ih _ _ _

theorem enquires_wait (p : Poller) (s : Session) (t : Task) : (p.wait s t).Enquires := by
  have poll : (p.poll s t).Enquires := by
    have rest := (enquires_sleep p.delay).bind fun _ =>
      p.enquires_watch s t (p.limit + UInt32.size) 0 p.delay p.pause
    unfold Poller.poll
    split
    · exact (enquires_throw _).bind fun _ => rest
    · exact rest
  exact poll.bind fun _ => enquires_ofOutcome _

end Poller

namespace Work

theorem enquires_check (o : Work) : o.check.Enquires := by
  cases o with
  | create spec =>
    simp only [check]
    split
    · exact enquires_throw _
    · split
      · exact enquires_throw _
      · exact enquires_pure _
  | _ => exact enquires_pure _

theorem enquires_prepare (v : Volumes) (o : Work) : (o.prepare v).Enquires := by
  have order (s : Session) : (o.order s).Enquires := by
    cases o with
    | create spec | delete id wipe => exact enquires_pure _
    | expand id capacity | attach m id =>
      exact (enquires_ask s (q := .volume id) trivial).bind fun _ => enquires_pure _
    | detach m id =>
      simp only [Work.order]
      split
      · exact enquires_throw _
      · exact enquires_pure _
  exact o.enquires_check.bind fun _ => (enquires_session v.host true).bind fun s =>
    (order s).bind fun _ => enquires_pure _

theorem enquires_conclude (s : Session) (o : Work) : (o.conclude s).Enquires := by
  cases o with
  | create spec =>
    refine (enquires_ask s (q := .volumes spec.dataStore) trivial).bind fun all => ?_
    split
    · exact enquires_pure _
    · exact enquires_throw _
  | attach m id => exact m.enquires_renew false
  | delete id wipe | expand id capacity | detach m id => exact enquires_pure _

end Work

namespace Csi

inductive Operation
  | create (r : CreateRequest)
  | delete (id : String)
  | publish (id node : String)
  | unpublish (id node : String)
  | expand (id : String) (bytes : Nat) (capability : Option Capability)

/-- What is to be done, and what is answered when it is. -/
structure Plan (α : Type) where
  work : Work
  answer : work.Answer → Except Error α

namespace Operation

abbrev Answer : Operation → Type
  | create _ => Volume
  | delete _ => Unit
  | publish _ _ => Table String
  | unpublish _ _ => Unit
  | expand _ _ _ => Expansion

def attempt (v : Volumes) : (o : Operation) → Attempt o.Answer
  | create r => Csi.create v r
  | delete id => Csi.delete v id
  | publish id node => Csi.publish v id node
  | unpublish id node => Csi.unpublish v id node
  | expand id bytes capability => Csi.expand v id bytes capability

def plan : (o : Operation) → Attempt (Plan o.Answer)
  | create r => do
    need "volume name" r.name
    match r.parameter "datastoreurl" with
    | none | some "" =>
      throw (.invalidArgument "storage class parameter datastoreurl is not set")
    | some dataStore =>
      return {
        work := .create { name := r.name, capacity := r.gibs, dataStore := dataStore }
        answer := fun id => .ok {
          id := id
          capacity := r.gibs * gib
          context := [("type", "ics-disk"), ("fstype", (r.parameter "fstype").getD "")] } }
  | delete id => do
    need "volume id" id
    return { work := .delete id true, answer := .ok }
  | publish id node => do
    need "volume id" id
    need "node id" node
    let m ← Node.machineOf node
    return {
      work := .attach m id
      answer := fun m =>
        (Volumes.scsiId m id).map fun scsi => [("type", "ics-disk"), ("diskUUID", scsi)] }
  | unpublish id node => do
    need "volume id" id
    need "node id" node
    let m ← Node.machineOf node
    return { work := .detach m id, answer := .ok }
  | expand id bytes capability => do
    need "volume id" id
    return {
      work := .expand id (roundUp bytes gib)
      answer := fun _ => .ok {
        capacity := roundUp bytes gib * gib
        nodeMustGrow := !(capability.any (·.type = .block)) } }

theorem enquires_plan (o : Operation) : o.plan.Enquires := by
  have need (what text : String) : (need what text).Enquires := by
    unfold Csi.need
    split
    · exact enquires_throw _
    · exact enquires_pure _
  cases o with
  | create r =>
    refine (need _ _).bind fun _ => ?_
    split
    · exact enquires_throw _
    · exact enquires_throw _
    · exact enquires_pure _
  | delete id | expand id bytes capability => exact (need _ _).bind fun _ => enquires_pure _
  | publish id node | unpublish id node =>
    exact (need _ _).bind fun _ => (need _ _).bind fun _ =>
      (Node.enquires_machineOf node).bind fun _ => enquires_pure _

def prepare (v : Volumes) (o : Operation) : Attempt (Plan o.Answer × Session × Command) := do
  let p ← o.plan
  let (s, c) ← p.work.prepare v
  return (p, s, c)

theorem enquires_prepare (v : Volumes) (o : Operation) : (o.prepare v).Enquires :=
  o.enquires_plan.bind fun p => (p.work.enquires_prepare v).bind fun _ => enquires_pure _

end Operation

def Plan.conclude {α : Type} (p : Plan α) (v : Volumes) (s : Session) (t : Task) : Attempt α := do
  v.poller.wait s t
  let a ← p.work.conclude s
  .ofOutcome (p.answer a)

theorem Plan.enquires_conclude {α : Type} (p : Plan α) (v : Volumes) (s : Session) (t : Task) :
    (p.conclude v s t).Enquires :=
  (v.poller.enquires_wait s t).bind fun _ =>
    (p.work.enquires_conclude s).bind fun _ => enquires_ofOutcome _

theorem Operation.attempt_plan (v : Volumes) (o : Operation) :
    o.attempt v = (do
      let p ← o.plan
      let a ← p.work.attempt v
      .ofOutcome (p.answer a)) := by
  have bind_pure {α : Type} (p : Attempt α) : (do .ofOutcome (.ok (← p))) = p := bind_pure p
  cases o with
  | create r =>
    simp only [attempt, Csi.create, plan, bind_assoc]
    refine bind_congr fun _ => ?_
    generalize r.parameter "datastoreurl" = dataStore
    cases dataStore with
    | none => rfl
    | some dataStore =>
      by_cases hd : dataStore = ""
      · subst hd
        rfl
      · simp only [pure_bind]
        rfl
  | delete id =>
    simp only [attempt, Csi.delete, plan, bind_assoc, pure_bind]
    exact bind_congr fun _ => (bind_pure _).symm
  | publish id node =>
    simp only [attempt, Csi.publish, plan, bind_assoc, pure_bind]
    refine bind_congr fun _ => bind_congr fun _ => bind_congr fun m => bind_congr fun m' => ?_
    cases Volumes.scsiId m' id <;> rfl
  | unpublish id node =>
    simp only [attempt, Csi.unpublish, plan, bind_assoc, pure_bind]
    exact bind_congr fun _ => bind_congr fun _ => bind_congr fun _ => (bind_pure _).symm
  | expand id bytes capability =>
    simp only [attempt, Csi.expand, plan, bind_assoc, pure_bind]
    rfl

theorem Operation.attempt_eq (v : Volumes) (o : Operation) :
    o.attempt v = (do
      let (p, s, c) ← o.prepare v
      let t ← ask s (.command c)
      p.conclude v s t) := by
  simp only [attempt_plan, Work.attempt_eq, prepare, Plan.conclude, bind_assoc, pure_bind]

end Csi

end StorageDriver
