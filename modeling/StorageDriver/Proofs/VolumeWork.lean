import StorageDriver.Proofs.TaskWatch

namespace StorageDriver

/-- What is asked of the volumes of a center by giving one command. -/
inductive Work
  | create (spec : VolumeSpec)
  | delete (id : String) (wipe : Bool)
  | expand (id : String) (capacity : Nat)
  | attach (m : VirtualMachine) (id : String)
  | detach (m : VirtualMachine) (id : String)

namespace Work

abbrev Answer : Work → Type
  | create _ => String
  | attach _ _ => VirtualMachine
  | _ => Unit

def attempt (v : Volumes) : (o : Work) → Attempt o.Answer
  | create spec => v.create spec
  | delete id wipe => v.delete id wipe
  | expand id capacity => v.expand id capacity
  | attach m id => v.attach m id
  | detach m id => v.detach m id

def check : Work → Attempt Unit
  | create spec =>
    if spec.name = "" then throw (.invalidArgument "volume name is empty")
    else if spec.dataStore = "" then throw (.invalidArgument "datastore is not specified")
    else pure ()
  | _ => pure ()

def order (s : Session) : Work → Attempt Command
  | create spec => return .createVolume spec.order
  | delete id wipe => return .deleteVolume id wipe
  | expand id capacity => do
    let volume ← Attempt.ask s (.volume id)
    return .putVolume { volume with size := .ofNat capacity }
  | attach m id => do
    let volume ← Attempt.ask s (.volume id)
    return .putMachine (m.info.withDisk volume)
  | detach m id =>
    if m.info.disks.all (·.id ≠ id) then
      throw (.invalidArgument (s!"volume {id} is not attached to " ++ m.describe))
    else return .putMachine (m.info.withoutDisk id)

/-- All that comes before the command. -/
def prepare (v : Volumes) (o : Work) : Attempt (Session × Command) := do
  o.check
  let s ← v.session
  let c ← o.order s
  return (s, c)

def conclude (s : Session) : (o : Work) → Attempt o.Answer
  | attach m _ => m.renew false
  | delete _ _ | expand _ _ | detach _ _ => pure ()
  | create spec => do
    match (← Attempt.ask s (.volumes spec.dataStore)).find? (·.name = spec.name) with
    | some made => return made.id
    | none =>
      throw (.internal
        s!"volume {spec.name} not found in datastore {spec.dataStore} after creation")

theorem attempt_eq (v : Volumes) (o : Work) :
    o.attempt v = (do
      let (s, c) ← o.prepare v
      let t ← Attempt.ask s (.command c)
      v.poller.wait s t
      o.conclude s) := by
  unfold prepare
  cases o with
  | create spec =>
    simp only [attempt, Volumes.create, Volumes.command, check, order, conclude, bind_assoc,
      pure_bind]
    split
    · rfl
    · split
      · rfl
      · rfl
  | delete | expand | attach =>
    simp only [attempt, Volumes.delete, Volumes.expand, Volumes.attach, Volumes.command, check,
      order, conclude, bind_assoc, pure_bind, bind_pure_unit]
  | detach m id =>
    simp only [attempt, Volumes.detach, Volumes.command, check, order, conclude, bind_assoc,
      pure_bind, bind_pure_unit]
    refine bind_congr fun s => ?_
    split
    · rfl
    · rw [pure_bind]

end Work

namespace Attempt

variable {α β : Type} {env : Setting} {f : Fleet} {P : α → Prop} {Q : β → Prop}

/-- Wherever it starts, `p` leaves the planes `f` as they are, up to what they count. -/
def Looks (env : Setting) (f : Fleet) (P : α → Prop) (p : Attempt α) : Prop :=
  ∀ w, w.net.Shows f → Network.Looked f P ((p.execute env w).1, (p.execute env w).2.net)

theorem looks_pure {a : α} (h : P a) : Looks env f P (pure a) := fun _ hw => .of_ok hw h

theorem looks_throw {e : Error} (h : e.IsPlain) : Looks env f P (throw e) :=
  fun _ hw => .of_error hw h

theorem Looks.bind {p : Attempt α} {g : α → Attempt β} (hp : Looks env f P p)
    (hg : ∀ a, P a → Looks env f Q (g a)) : Looks env f Q (p >>= g) := by
  intro w hw
  have hl := hp w hw
  rw [execute_bind]
  cases he : p.execute env w with
  | mk r w' =>
    rw [he] at hl
    cases r with
    | ok a => exact hg a (hl.ok a rfl) w' hl.shows
    | error e => exact .of_error hl.shows (hl.error e rfl)

theorem looks_session (host : String) : Looks env f (fun s => s.host = host) (session host true) :=
  Looks.bind (fun _ hw => Network.looked_connect hw host) fun _ _ _ hw =>
    Network.looked_client hw host

theorem looks_volume (s : Session) (id : String) :
    Looks env f (fun _ => True) (ask s (.volume id)) := by
  intro w hw
  have hs := Network.shows_await (Network.shows_start hw s (.volume id))
    ((Network.start s (.volume id)).run w.net).1
  exact Network.looked_finish (q := .volume id) hs s (fun _ => rfl) fun _ _ _ _ => trivial

end Attempt

namespace Work

open Attempt

variable {env : Setting} {f : Fleet}

theorem looks_check (o : Work) : Looks env f (fun _ => True) o.check := by
  have plain (text : String) : Error.IsPlain (.invalidArgument text) := ⟨rfl, nofun⟩
  cases o with
  | create spec =>
    simp only [check]
    split
    · exact looks_throw (plain _)
    · split
      · exact looks_throw (plain _)
      · exact looks_pure trivial
  | _ => exact looks_pure trivial

theorem looks_order (s : Session) (o : Work) : Looks env f (fun _ => True) (o.order s) := by
  cases o with
  | create spec | delete id wipe => exact looks_pure trivial
  | expand id capacity | attach m id =>
    exact (looks_volume s id).bind fun _ _ => looks_pure trivial
  | detach m id =>
    simp only [order]
    split
    · exact looks_throw ⟨rfl, nofun⟩
    · exact looks_pure trivial

theorem looks_prepare (env : Setting) (v : Volumes) (o : Work) :
    Looks env f (fun x => x.1.host = v.host) (o.prepare v) := by
  refine o.looks_check.bind fun _ _ => (looks_session v.host).bind fun s hs => ?_
  exact (o.looks_order s).bind fun _ _ => looks_pure hs

end Work

/-- The states that the task of the next command to the plane of `host` will go through. -/
def World.script (w : World Fleet) (host : String) : List String :=
  ((w.net.planes.get? host).bind (·.script)).getD ["FINISHED"]

theorem World.script_of_alike {w w' : World Fleet} (h : w'.net.planes.Alike w.net.planes)
    (host : String) : w'.script host = w.script host := by
  have hs := congrArg (Option.bind · Plane.script) (h host)
  rw [Option.bind_map, Option.bind_map] at hs
  exact congrArg (Option.getD · ["FINISHED"]) hs

theorem World.watched_of_command {env : Setting} {w w' : World Fleet} {s : Session} {c : Command}
    {t : Task} (h : (Attempt.ask s (.command c)).execute env w = (.ok t, w')) :
    t.id ≠ "" ∧ w'.Watched s.host t.id (w.script s.host) 0 0 w' := by
  have hr : ((Network.ask s (.command c)).run.run w.net).1 = .ok t := congrArg Prod.fst h
  have hn : ((Network.ask s (.command c)).run.run w.net).2 = w'.net := congrArg (·.2.net) h
  cases hp : w.net.planes.get? s.host with
  | none =>
    rw [(Network.run_ask_none hp).1] at hr
    cases hr
  | some p =>
    obtain ⟨hx, hw⟩ := Network.run_ask_some (q := .command c) hp
    obtain ⟨hi, ht⟩ := Plane.obeyed (p := p) (hx.symm.trans hr)
    refine ⟨hi, ⟨(p.obey c).2, _, ?_, ht, fun i => ?_⟩, rfl, rfl⟩
    · rw [← hn, hw, Table.get?_put, if_pos rfl]
      rfl
    · rw [Nat.zero_add, World.script, hp]
      rfl

namespace Work

open StorageDriver.Task

variable {w w₁ w₂ : World Fleet} {s : Session} {c : Command} {t : Task}

/-- A volume operation that has given its command reads the task until it has come to an end or the
time is up, and goes on only if it has seen it finished. -/
theorem settled_in_time (env : Setting) (o : Work) (v : Volumes) (hp : 0 < v.poller.pause)
    (hw : w.net.Proper)
    (ready : (o.prepare v).execute env w = (.ok (s, c), w₁))
    (given : (Attempt.ask s (.command c)).execute env w₁ = (.ok t, w₂)) :
    ∃ r w₃, (v.poller.wait s t).execute env w₂ = (r, w₃) ∧
      (o.attempt v).execute env w = (match r with
        | .ok () => (o.conclude s).execute env w₃
        | .error e => (.error e, w₃)) ∧
      (r = .ok () ↔ ∃ i ≤ v.poller.last hp, reading (w.script v.host) i = "FINISHED" ∧
        ∀ k < i, ¬ Ends (reading (w.script v.host) k)) ∧
      (∀ i ≤ v.poller.last hp, Ends (reading (w.script v.host) i) →
        (∀ k < i, ¬ Ends (reading (w.script v.host) k)) →
        w₃.polls v.host = w₂.polls v.host + (i + 1) ∧
          (reading (w.script v.host) i = "ERROR" →
            r = .error (.taskFailed t.id s!"task {t.id} failed"))) ∧
      ((∀ i ≤ v.poller.last hp, ¬ Ends (reading (w.script v.host) i)) →
        w₃.polls v.host = w₂.polls v.host + (v.poller.last hp + 1) ∧
          w₃.net.clock = w₂.net.clock + max v.poller.delay v.poller.limit ∧
          r = .error (.taskIncomplete t.id (reading (w.script v.host) (v.poller.last hp)))) := by
  obtain ⟨hv, hs⟩ : s.host = v.host ∧ w₁.script s.host = w.script v.host := by
    have hl := looks_prepare (f := w.net.planes) env v o w ⟨hw, fun _ => rfl⟩
    rw [ready] at hl
    have hv : s.host = v.host := hl.ok _ rfl
    exact ⟨hv, hv ▸ World.script_of_alike hl.shows.alike s.host⟩
  obtain ⟨ht, hwatch⟩ := World.watched_of_command given
  obtain ⟨j, hj⟩ := Poller.exists_settles hp (w.script v.host)
  rw [hs] at hwatch
  obtain ⟨w₃, he, h₃⟩ := Poller.execute_wait env hp ht hj hwatch
  rw [hv] at h₃
  refine ⟨_, w₃, he, ?_, ?_, fun i hi ends before => ?_, fun never => ?_⟩
  · rw [attempt_eq, Attempt.execute_bind, ready]
    dsimp only
    rw [Attempt.execute_bind, given]
    dsimp only
    rw [Attempt.execute_bind, he]
    cases (t.outcome (w.script v.host) j).result <;> rfl
  · rw [result_ok]
    constructor
    · exact fun hf => ⟨j, hj.le_last hp, hf, fun k hk he => hj.before k hk (.inl he)⟩
    · rintro ⟨i, hi, hf, before⟩
      obtain rfl := (Poller.Settles.of_ends hi (.inl hf) before).unique hj
      exact hf
  · obtain rfl := (Poller.Settles.of_ends hi ends before).unique hj
    refine ⟨h₃.polls, fun herr => ?_⟩
    rw [result_outcome, if_neg (by simp [herr]), if_pos herr]
  · obtain rfl := (Poller.Settles.of_never never).unique hj
    have hn := never _ (Nat.le_refl _)
    rw [result_outcome, if_neg fun h => hn (.inl h), if_neg fun h => hn (.inr h),
      ← Poller.time_last hp]
    exact ⟨h₃.polls, h₃.clock, rfl⟩

end Work

namespace Slow

def plane : Plane where
  host := "a"
  volumes := [{ id := "vol-1" }]
  script := some ["RUNNING", "FINISHED"]

def world : World Fleet where
  net := Network.register { planes := .ofPlanes [plane] } plane.config

def volumes : Volumes where
  host := "a"
  poller := { delay := 1, pause := 1, limit := 10 }

end Slow

theorem Work.settled_in_time_delete :
    Slow.world.net.Proper ∧
      (((Work.delete "vol-1" false).attempt Slow.volumes).execute {} Slow.world).1 = .ok () := by
  have hp : 0 < Slow.volumes.poller.pause := by decide
  have hw : Slow.world.net.Proper := (Network.proper_of_planes _).register _
  obtain ⟨r, w₃, -, ha, hr, -⟩ := settled_in_time {} (.delete "vol-1" false) Slow.volumes hp hw
    (s := ⟨"a", 0⟩) (c := .deleteVolume "vol-1" false) rfl rfl
  have hl : 1 ≤ Slow.volumes.poller.last hp := (Nat.le_find_iff _ 1).2 (by decide)
  refine ⟨hw, ?_⟩
  rw [ha, hr.2 ⟨1, hl, by decide, by decide⟩]
  rfl

end StorageDriver
