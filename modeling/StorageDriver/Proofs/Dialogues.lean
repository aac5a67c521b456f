import StorageDriver.Driver
import StorageDriver.Proofs.DiscreetClients
import StorageDriver.Proofs.DiscreetProcedures

namespace StorageDriver

namespace Node.Demand

theorem blind_attempt (d : Demand) : d.attempt.run.All Action.IsBlind := by
  cases d with
  | register u name => exact blind_register u name
  | unregister name => exact blind_unregister name
  | uuid name => exact blind_uuid name
  | machineOf name => exact blind_machineOf name
  | sweep => exact blind_sweep
  | discover u name => exact Attempt.all_bind (blind_find u name) fun _ => trivial
  | machine u name => exact blind_machine u name

end Node.Demand

inductive Job
  | connect (host : String)
  | client (host : String)
  | ask (s : Session) (q : Request)
  | lookup (d : Datacenter) (q : Query)
  | renewDatacenter (d : Datacenter) (reconnect : Bool)
  | renewMachine (m : VirtualMachine) (reconnect : Bool)
  | node (d : Node.Demand)
  | volume (v : Volumes) (o : Work)
  | csi (v : Volumes) (o : Csi.Operation)
  | ready (v : Volumes)
  | poll (p : Poller) (s : Session) (t : Task)
  | wait (p : Poller) (s : Session) (t : Task)

namespace Job

abbrev Answer : Job → Type
  | connect _ | wait _ _ _ => Unit
  | client _ => Session
  | ask _ q => q.Reply
  | lookup _ _ | renewMachine _ _ => VirtualMachine
  | renewDatacenter _ _ => Datacenter
  | node d => d.Answer
  | volume _ o => o.Answer
  | csi _ o => o.Answer
  | ready _ => Bool
  | poll _ _ _ => Task.Outcome

def attempt : (j : Job) → Attempt j.Answer
  | connect host => .connect host
  | client host => .client host
  | ask s q => .ask s q
  | lookup d q => d.lookup q
  | renewDatacenter d reconnect => d.renew reconnect
  | renewMachine m reconnect => m.renew reconnect
  | node d => d.attempt
  | volume v o => o.attempt v
  | csi v o => o.attempt v
  | ready v => Csi.ready v
  | poll p s t => p.poll s t
  | wait p s t => p.wait s t

theorem blind (j : Job) : j.attempt.Blind := by
  cases j with
  | connect | client | ask => exact Proc.blind_of_all ⟨trivial, fun _ => trivial⟩
  | lookup d q => exact Proc.blind_of_all (d.blind_lookup q)
  | renewDatacenter d reconnect => exact Proc.blind_of_all (d.blind_renew reconnect)
  | renewMachine m reconnect => exact Proc.blind_of_all (Node.blind_renew m reconnect)
  | node d => exact Proc.blind_of_all d.blind_attempt
  | volume v o => exact Proc.blind_of_all (o.all_attempt Action.talk_blind v)
  | csi v o => exact Proc.blind_of_all (o.blind_attempt v)
  | ready v => exact Csi.blind_ready v
  | poll p s t => exact Proc.blind_of_all (p.all_poll trivial fun _ => trivial)
  | wait p s t => exact Proc.blind_of_all (p.all_wait trivial fun _ => trivial)

end Job

open Http

namespace Network

variable {W : Type}

/-- The network with the passwords left out of its centers and of the clients that were opened. -/
def veiled (n : Network (Link W)) : Network (Link W) where
  centers := n.registry
  planes := { n.planes with clients := n.planes.clients.map Client.veiled }
  clock := n.clock

/-- Everything that shows the registry, a configuration, a handle or a client. -/
def texts (n : Network (Link W)) : List String :=
  n.details ::
    (n.centers.flatMap fun p =>
      [p.2.config.describe, p.2.config.details, p.2.config.handleDetails]) ++
      n.planes.clients.map fun k => Client.details k.config

theorem texts_veiled (n : Network (Link W)) : n.veiled.texts = n.texts := by
  have hosts : n.veiled.details = n.details := by
    unfold details hosts veiled registry
    rw [List.map_map]
    rfl
  unfold texts
  rw [hosts]
  unfold veiled registry
  rw [List.flatMap_map, List.map_map]
  rfl

end Network

namespace World

variable {W : Type}

def veiled (w : World (Link W)) : World (Link W) := { w with net := w.net.veiled }

theorem veiled_of_alike {w w' : World (Link W)} (h : w.Alike Eq w') : w.veiled = w'.veiled := by
  obtain ⟨⟨centers, planes, clock⟩, nodes⟩ := w
  obtain ⟨⟨centers', planes', clock'⟩, nodes'⟩ := w'
  obtain ⟨⟨registry, rfl, rfl⟩, rfl⟩ := h
  simp only [veiled, Network.veiled, World.mk.injEq, Network.mk.injEq, and_true]
  exact registry

variable [Transport W] {w w' : World (Link (Tapped W))}

theorem alike_of_veiled (same : w.veiled = w'.veiled)
    (heedless : Heedless w.net.planes.wire.wire) : w.Alike Link.Alike w' := by
  obtain ⟨⟨centers, ⟨clients, wire⟩, clock⟩, nodes⟩ := w
  obtain ⟨⟨centers', ⟨clients', wire'⟩, clock'⟩, nodes'⟩ := w'
  simp only [veiled, Network.veiled, World.mk.injEq, Network.mk.injEq, Link.mk.injEq] at same
  obtain ⟨⟨registry, ⟨clients, rfl⟩, rfl⟩, rfl⟩ := same
  exact ⟨⟨registry, rfl, clients, rfl, heedless⟩, rfl⟩

theorem Alike.texts (h : w.Alike Link.Alike w') : w.net.texts = w'.net.texts := by
  rw [← Network.texts_veiled, ← Network.texts_veiled w'.net]
  unfold Network.texts Network.details Network.hosts Network.veiled
  rw [h.net.registry, h.net.planes.clients]

end World

theorem Network.Alike.registered {R : Type} {E : R → R → Prop} {cs cs' : List Center.Config}
    (hcs : cs.map Center.Config.veiled = cs'.map Center.Config.veiled) {n n' : Network R}
    (h : n.Alike E n') :
    (cs.foldl Network.register n).Alike E (cs'.foldl Network.register n') := by
  induction cs generalizing cs' n n' with
  | nil =>
    obtain rfl := List.map_eq_nil_iff.1 hcs.symm
    exact h
  | cons c cs ih =>
    obtain ⟨c', cs', rfl, hc, more⟩ := List.map_eq_cons_iff.1 hcs.symm
    exact ih more.symm (h.register hc.symm)

namespace Config

def Entry.veiled (e : Entry) : Entry := { e with password := "" }

def veiled (c : Config) : Config := { c with entries := c.entries.map Entry.veiled }

theorem checkEntries_veiled (i : Nat) (es : List Entry) :
    checkEntries i (es.map Entry.veiled) = checkEntries i es := by
  induction es generalizing i with
  | nil => rfl
  | cons e es ih =>
    rw [List.map_cons, checkEntries, checkEntries, ih]
    rfl

theorem validate_veiled (c : Config) : c.veiled.validate = c.validate := by
  unfold validate veiled
  dsimp only
  rw [checkEntries_veiled, List.isEmpty_map]

theorem alike_world {R : Type} (c : Config) (insecure : Bool) (planes : R) :
    (c.veiled.world insecure planes).Alike Eq (c.world insecure planes) := by
  refine ⟨.registered ?_ ⟨rfl, rfl, rfl⟩, rfl⟩
  unfold veiled centers
  simp only [List.map_map]
  rfl

theorem shown_of_veiled {c c' : Config} (h : c.veiled = c'.veiled) :
    c.entries.map Entry.details = c'.entries.map Entry.details ∧ c.validate = c'.validate ∧
      c.setting = c'.setting ∧ c.volumes? = c'.volumes? ∧
      ∀ {W : Type} (insecure : Bool) (l : Link W),
        (c.world insecure l).veiled = (c'.world insecure l).veiled := by
  have details (c : Config) : c.veiled.entries.map Entry.details = c.entries.map Entry.details := by
    unfold veiled
    rw [List.map_map]
    rfl
  have volumes (c : Config) : c.veiled.volumes? = c.volumes? := by
    unfold volumes? veiled
    rw [List.head?_map, Option.map_map]
    rfl
  have setting (c : Config) : c.veiled.setting = c.setting := rfl
  have world {W : Type} (c : Config) (insecure : Bool) (l : Link W) :
      (c.veiled.world insecure l).veiled = (c.world insecure l).veiled :=
    World.veiled_of_alike (c.alike_world insecure l)
  refine ⟨?_, ?_, ?_, ?_, fun insecure l => ?_⟩
  · rw [← details, h, details]
  · rw [← validate_veiled, h, validate_veiled]
  · rw [← setting, h, setting]
  · rw [← volumes, h, volumes]
  · rw [← world, h, world]

end Config

def Network.datacentersOf {R : Type} [Remote R] (host : String) :
    Call (Network R) (List Datacenter) := do
  datacenters (← handle host).config

theorem Network.Alike.datacentersOf {R : Type} [Remote R] {E : R → R → Prop}
    (hE : Remote.Discreet E) {n n' : Network R} (h : n.Alike E n') (host : String) :
    Agree (Alike E) ((Network.datacentersOf host).run.run n)
      ((Network.datacentersOf host).run.run n') := by
  unfold Network.datacentersOf
  rw [Call.run_bind, Call.run_bind, run_handle, run_handle]
  obtain ⟨hn, hn'⟩ | ⟨hd, hd', hn, hn', hh⟩ := h.known host
  · rw [hn, hn']
    exact ⟨rfl, h⟩
  · rw [hn, hn']
    exact h.datacenters hE (congrArg Center.Handle.config hh)

/-- `list` enumerates the datacenters of all centers and tells the failures too. -/
inductive Step
  | job (j : Job)
  | register (c : Center.Config)
  | unregister (host : String)
  | datacenters (host : String)
  | resolve (patience : Patience) (q : Query)
  | list (room : Nat) (wanted : Option Nat) (cancelled : Bool)
  | texts

namespace Step

abbrev Answer : Step → Type
  | job j => Except Error j.Answer
  | register _ => Unit
  | unregister _ => Except Error Unit
  | datacenters _ => Except Error (List Datacenter)
  | resolve _ _ => Except Error VirtualMachine
  | list _ _ _ => List Datacenter × List Error
  | texts => List String

variable {W : Type} [Transport W]

def run (env : Setting) : (s : Step) → World (Link W) → s.Answer × World (Link W)
  | job j => j.attempt.execute env
  | register c => World.onNet fun n => ((), n.register c)
  | unregister host => World.onNet (Network.unregister host).run.run
  | datacenters host => World.onNet (Network.datacentersOf host).run.run
  | resolve patience q => World.onNet (Network.search env.pool patience q).run.run
  | list room wanted cancelled => World.onNet fun n =>
    let l := n.listing room wanted cancelled
    ((l.taken, l.stream.fault.toList), l.net)
  | texts => fun w => (w.net.texts, w)

/-- What a step may come to, in whatever order the parties of its searches and enumerations move. -/
inductive Runs (env : Setting) (w : World (Link W)) : (s : Step) → s.Answer → World (Link W) → Prop
  | alone (s : Step) : Runs env w s (s.run env w).1 (s.run env w).2
  | job {j : Job} {r : Except Error j.Answer} {v : World (Link W)} (h : j.attempt.Runs env w r v) :
    Runs env w (.job j) r v
  | resolve {patience : Patience} {q : Query} {ms : List (Nat × Search.Move)}
      {t : Search.State (Link W)} {es : List Search.Event} (hq : q.isEmpty = false)
      (hf : (Search.start q env.pool (patience = .spent) w.net).follow ms = some (t, es))
      (hd : t.phase = .done) :
    Runs env w (.resolve patience q) t.outcome { w with net := t.net }
  | list {room : Nat} {wanted : Option Nat} {cancelled : Bool} {ms : List Enumeration.Move}
      {e : Enumeration (Link W)}
      (hf : (Enumeration.start (w.net.centers.map (·.2.config)) room w.net).follow ms = some e) :
    Runs env w (.list room wanted cancelled) (e.taken, e.told) { w with net := e.net }

variable {env : Setting} {w w' : World (Link (Tapped W))}

theorem alike_run (env : Setting) (h : w.Alike Link.Alike w') (s : Step) :
    Agree (World.Alike Link.Alike) (s.run env w) (s.run env w') := by
  have twins := Network.Alike.twins (Link.discreet (W := W))
  cases s with
  | job j => exact h.run Link.discreet env j.blind
  | register c => exact ⟨rfl, h.net.register rfl, h.nodes⟩
  | unregister host => exact h.onNet (h.net.unregister host)
  | datacenters host => exact h.onNet (h.net.datacentersOf Link.discreet host)
  | resolve patience q => exact h.onNet (twins.search h.net env.pool patience q)
  | list room wanted cancelled =>
    have ended := twins.listing h.net room wanted cancelled
    unfold run World.onNet
    dsimp only
    generalize w.net.listing room wanted cancelled = k at ended
    generalize w'.net.listing room wanted cancelled = l at ended
    obtain ⟨-, hn⟩ := ended
    exact ⟨rfl, hn, h.nodes⟩
  | texts => exact ⟨h.texts, h⟩

theorem alike_runs (h : w.Alike Link.Alike w') {s : Step} {x : s.Answer}
    {v : World (Link (Tapped W))} (hx : s.Runs env w x v) :
    ∃ v', s.Runs env w' x v' ∧ v.Alike Link.Alike v' := by
  have twins := Network.Alike.twins (Link.discreet (W := W))
  cases hx with
  | alone =>
    obtain ⟨answer, left⟩ := s.alike_run env h
    exact ⟨_, answer ▸ .alone s, left⟩
  | @job j r v hr =>
    obtain ⟨v', hv, left⟩ := World.Alike.runs Link.discreet hr h j.blind
    exact ⟨v', .job hv, left⟩
  | resolve hq hf hd =>
    obtain ⟨t, es, ht, left⟩ :=
      (Search.State.beside_start twins h.net _ env.pool _).follow twins hf
    obtain ⟨-, phase, -⟩ := left.common
    have found := left.outcome ▸ Runs.resolve hq ht (phase.trans hd)
    exact ⟨{ w' with net := t.net }, found, left.nets, h.nodes⟩
  | list hf =>
    obtain ⟨e, he, left⟩ := (Enumeration.beside_start twins h.net _).follow twins hf
    obtain @⟨p, n, hp, hn⟩ := left
    exact ⟨{ w' with net := n }, .list he, hn, h.nodes⟩

end Step

/-- What is asked for next may depend on everything that was answered. -/
inductive Dialogue (α : Type)
  | done (a : α)
  | step (s : Step) (next : s.Answer → Dialogue α)

namespace Dialogue

variable {α W : Type} [Transport W]

def run (env : Setting) : Dialogue α → World (Link W) → α × World (Link W)
  | done a, w => (a, w)
  | step s next, w => (next (s.run env w).1).run env (s.run env w).2

inductive Runs (env : Setting) : Dialogue α → World (Link W) → α → World (Link W) → Prop
  | done (a : α) (w : World (Link W)) : Runs env (.done a) w a w
  | step {s : Step} {next : s.Answer → Dialogue α} {w u v : World (Link W)} {x : s.Answer} {r : α}
      (hx : s.Runs env w x u) (hr : (next x).Runs env u r v) : Runs env (.step s next) w r v

variable {env : Setting} {w w' : World (Link (Tapped W))}

theorem alike_run (env : Setting) (h : w.Alike Link.Alike w') (d : Dialogue α) :
    Agree (World.Alike Link.Alike) (d.run env w) (d.run env w') := by
  induction d generalizing w w' with
  | done a => exact ⟨rfl, h⟩
  | step s next ih =>
    obtain ⟨answer, left⟩ := s.alike_run env h
    unfold run
    rw [answer]
    exact ih _ left

theorem alike_runs {d : Dialogue α} {r : α} {v : World (Link (Tapped W))} (hr : d.Runs env w r v)
    (h : w.Alike Link.Alike w') : ∃ v', d.Runs env w' r v' ∧ v.Alike Link.Alike v' := by
  induction hr generalizing w' with
  | done a w => exact ⟨w', .done a w', h⟩
  | step hx hr ih =>
    obtain ⟨u', hu, left⟩ := Step.alike_runs h hx
    obtain ⟨v', hv, left⟩ := ih left
    exact ⟨v', .step hu hv, left⟩

/-- The password reaches the login only. Configurations that differ in passwords alone are shown
and checked alike and make worlds that differ in passwords alone. In two such worlds everything that
is asked for is answered alike, whether the parties of the searches move as they do on their own or
in any other order, and what is said over the wire differs in the credentials and the password of
the logins alone. -/
theorem password_withheld :
    (∀ c c' : Config, c.veiled = c'.veiled →
      c.entries.map Config.Entry.details = c'.entries.map Config.Entry.details ∧
        c.validate = c'.validate ∧ c.setting = c'.setting ∧ c.volumes? = c'.volumes? ∧
        ∀ (insecure : Bool) (l : Link (Tapped W)),
          (c.world insecure l).veiled = (c'.world insecure l).veiled) ∧
    ∀ (env : Setting) (w w' : World (Link (Tapped W))), w.veiled = w'.veiled →
      Heedless w.net.planes.wire.wire → ∀ d : Dialogue α,
        (d.run env w).1 = (d.run env w').1 ∧
          (d.run env w).2.net.planes.wire.trace = (d.run env w').2.net.planes.wire.trace ∧
          ∀ r v, d.Runs env w r v → ∃ v', d.Runs env w' r v' ∧
            v.net.planes.wire.trace = v'.net.planes.wire.trace := by
  refine ⟨fun c c' h => ?_, fun env w w' same heedless d => ?_⟩
  · obtain ⟨details, valid, setting, volumes, world⟩ := Config.shown_of_veiled h
    exact ⟨details, valid, setting, volumes, world⟩
  · have alike := World.alike_of_veiled same heedless
    obtain ⟨answer, left⟩ := d.alike_run env alike
    refine ⟨answer, left.net.planes.wire.trace, fun r v hr => ?_⟩
    obtain ⟨v', hv, left⟩ := alike_runs hr alike
    exact ⟨v', hv, left.net.planes.wire.trace⟩

namespace Expiring

def config (password : String) : Config where
  entries := [{ host := "10.0.0.5", port := 8443, user := "admin", password := password }]

def server : Script where
  routes := [
    ("POST /authentication", [some { body := "\x7b\"sessonId\":\"t1\"\x7d" }]),
    ("GET /datacenters", [some { status := 401 }, some { body := "[]" }])]

def world (password : String) : World (Link (Tapped Script)) :=
  (config password).world false { wire := { wire := server } }

def talk : Dialogue (Bool × List String) :=
  .step (.datacenters "10.0.0.5") fun r => .step .texts fun texts => .done (r.isOk, texts)

theorem password_withheld_expiring :
    let x := talk.run {} (world "s3cret")
    let y := talk.run {} (world "hunter2")
    x.1 = y.1 ∧ x.1.1 = true ∧ x.2.net.planes.wire.trace = y.2.net.planes.wire.trace ∧
      x.2.net.planes.wire.heard.length = 4 ∧
      x.2.net.planes.wire.heard ≠ y.2.net.planes.wire.heard := by
  intro x y
  obtain ⟨configs, worlds⟩ := password_withheld (α := Bool × List String) (W := Script)
  obtain ⟨-, -, -, -, same⟩ := configs (config "s3cret") (config "hunter2") rfl
  obtain ⟨answer, trace, -⟩ := worlds {} (world "s3cret") (world "hunter2") (same false _)
    (Script.heedless _) talk
  exact ⟨answer, by decide +kernel, trace, by decide +kernel, by decide +kernel⟩

end Expiring

end Dialogue

end StorageDriver
