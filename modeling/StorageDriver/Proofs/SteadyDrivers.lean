import StorageDriver.Proofs.SteadySearches

namespace StorageDriver

namespace Scene

def renews (s : Scene) (m : VirtualMachine) : Except Error VirtualMachine := do
  s.planes.greets s.centers m.host
  return m.renewed (← s.planes.answers ⟨m.host, 0⟩ (.machine m.id))

def fetches (s : Scene) (node : String) : Except Error String :=
  match s.setting.clusterUuid node with
  | .ok uuid => if uuid = "" then .error (.nodeNotFound node) else .ok uuid
  | .error e => .error e

variable {s : Scene}

theorem Finds.uuid {q : Query} {m : VirtualMachine} (h : s.Finds q (.ok m)) (hq : q.uuid ≠ "") :
    m.uuid = q.uuid :=
  Query.Finds.uuid h.hit hq

theorem cluster_of_fetches {node uuid : String} (h : s.fetches node = .ok uuid) :
    s.setting.clusterUuid node = .ok uuid ∧ uuid ≠ "" := by
  unfold fetches at h
  split at h
  · split at h
    · cases h
    · obtain rfl := Except.ok.inj h
      exact ⟨‹_›, ‹_›⟩
  · cases h

theorem uuid_of_renews {x m : VirtualMachine} (h : s.renews x = .ok m) : m.uuid = x.uuid := by
  unfold renews at h
  cases hg : s.planes.greets s.centers x.host with
  | error e =>
    rw [hg] at h
    cases h
  | ok u =>
    rw [hg] at h
    cases ha : s.planes.answers ⟨x.host, 0⟩ (.machine x.id) with
    | error e =>
      rw [ha] at h
      cases h
    | ok i =>
      rw [ha] at h
      exact Except.ok.inj h ▸ rfl

end Scene

variable {α β ε ι : Type} {s : Scene} {n k m : Nodes}

/-- Where the nodes are `n`, the runs of `p` end with the answers and the nodes that `Q` has, and
with no others. Locks are left aside. -/
structure Scene.Plays (s : Scene) (p : Proc α) (n : Nodes) (Q : α → Nodes → Prop) : Prop where
  sound : ∀ w : World Fleet, w.net.Stands s.centers s.planes → w.nodes.bare = n →
    ∀ a v, p.RunsBy (World.Awaits s.setting) w a v →
      v.net.Stands s.centers s.planes ∧ Q a v.nodes.bare
  complete : ∀ w : World Fleet, w.net.Stands s.centers s.planes → w.nodes.bare = n →
    ∀ a m, Q a m → ∃ v, p.RunsBy (World.Awaits s.setting) w a v ∧ v.nodes.bare = m

/-- There is one answer `r`, and `m` is left. -/
def Scene.Yields (s : Scene) (p : ExceptT ε Proc α) (n : Nodes) (r : Except ε α) (m : Nodes) :
    Prop :=
  s.Plays p.run n fun x k => x = r ∧ k = m

/-- There is one answer for each choice that `F` has. -/
def Scene.Branches (s : Scene) (p : ExceptT ε Proc α) (n : Nodes) (F : ι → Prop)
    (r : ι → Except ε α) (m : ι → Nodes) : Prop :=
  s.Plays p.run n fun x k => ∃ i, F i ∧ x = r i ∧ k = m i

/-- The answers of the runs of `p` are those that `P` has. -/
def Scene.Answers (s : Scene) (p : Proc α) (n : Nodes) (P : α → Prop) : Prop :=
  ∀ w : World Fleet, w.net.Stands s.centers s.planes → w.nodes.bare = n →
    ∀ a, (∃ v, p.RunsBy (World.Awaits s.setting) w a v) ↔ P a

namespace Scene

section

variable {p : Proc α} {q : α → Proc β} {Q : α → Nodes → Prop}

theorem Plays.congr {Q' : α → Nodes → Prop} (h : s.Plays p n Q) (hq : ∀ a m, Q a m ↔ Q' a m) :
    s.Plays p n Q' := by
  have same : Q = Q' := funext fun a => funext fun m => propext (hq a m)
  exact same ▸ h

theorem plays_done (a : α) : s.Plays (.done a) n fun b m => b = a ∧ m = n where
  sound w hw hn b v hr := by
    cases hr
    exact ⟨hw, rfl, hn⟩
  complete := by
    rintro w hw hn a m ⟨rfl, rfl⟩
    exact ⟨w, .done a w, hn⟩

theorem Plays.bind {R : α → Nodes → β → Nodes → Prop} (hp : s.Plays p n Q)
    (hq : ∀ a k, Q a k → s.Plays (q a) k (R a k)) :
    s.Plays (p.bind q) n fun b m => ∃ a k, Q a k ∧ R a k b m where
  sound w hw hn b v hr := by
    obtain ⟨a, u, hp', hq'⟩ := hr.of_bind
    obtain ⟨hu, ha⟩ := hp.sound w hw hn a u hp'
    obtain ⟨hv, hb⟩ := (hq a _ ha).sound u hu rfl b v hq'
    exact ⟨hv, a, _, ha, hb⟩
  complete := by
    rintro w hw hn b m ⟨a, k, ha, hb⟩
    obtain ⟨u, hp', hk⟩ := hp.complete w hw hn a k ha
    obtain ⟨hu, -⟩ := hp.sound w hw hn a u hp'
    obtain ⟨v, hq', hv⟩ := (hq a k ha).complete u hu hk b m hb
    exact ⟨v, hp'.bind hq', hv⟩

theorem Plays.then {R : β → Nodes → Prop} {a : α} (hp : s.Plays p n fun x l => x = a ∧ l = k)
    (hq : s.Plays (q a) k R) : s.Plays (p.bind q) n R := by
  refine (hp.bind (R := fun _ _ => R) fun x l hx => ?_).congr fun b m => ?_
  · obtain ⟨rfl, rfl⟩ := hx
    exact hq
  · exact ⟨fun ⟨_, _, _, hb⟩ => hb, fun hb => ⟨a, k, ⟨rfl, rfl⟩, hb⟩⟩

theorem Plays.branch {F : ι → Prop} {a : ι → α} {b : ι → β} {h l : ι → Nodes}
    (hp : s.Plays p n fun x k => ∃ i, F i ∧ x = a i ∧ k = h i)
    (hq : ∀ i, F i → s.Plays (q (a i)) (h i) fun y m => y = b i ∧ m = l i) :
    s.Plays (p.bind q) n fun y m => ∃ i, F i ∧ y = b i ∧ m = l i where
  sound w hw hn y v hr := by
    obtain ⟨x, u, hp', hq'⟩ := hr.of_bind
    obtain ⟨hu, i, hi, rfl, hk⟩ := hp.sound w hw hn x u hp'
    obtain ⟨hv, hy⟩ := (hq i hi).sound u hu hk y v hq'
    exact ⟨hv, i, hi, hy⟩
  complete := by
    rintro w hw hn y m ⟨i, hi, hy⟩
    obtain ⟨u, hp', hk⟩ := hp.complete w hw hn _ _ ⟨i, hi, rfl, rfl⟩
    obtain ⟨hu, -⟩ := hp.sound w hw hn _ u hp'
    obtain ⟨v, hq', hv⟩ := (hq i hi).complete u hu hk y m hy
    exact ⟨v, hp'.bind hq', hv⟩

theorem Plays.answers (h : s.Plays p n Q) : s.Answers p n fun a => ∃ m, Q a m := by
  intro w hw hn a
  constructor
  · rintro ⟨v, hr⟩
    exact ⟨_, (h.sound w hw hn a v hr).2⟩
  · rintro ⟨m, ha⟩
    obtain ⟨v, hr, -⟩ := h.complete w hw hn a m ha
    exact ⟨v, hr⟩

theorem Answers.congr {P P' : α → Prop} (h : s.Answers p n P) (hp : ∀ a, P a ↔ P' a) :
    s.Answers p n P' :=
  fun w hw hn a => (h w hw hn a).trans (hp a)

theorem Answers.map {P : α → Prop} (h : s.Answers p n P) (g : α → β) :
    s.Answers (p.bind fun a => .done (g a)) n fun b => ∃ a, P a ∧ b = g a := by
  intro w hw hn b
  constructor
  · rintro ⟨v, hr⟩
    obtain ⟨a, u, hp, hb⟩ := hr.of_bind
    cases hb
    exact ⟨a, (h w hw hn a).1 ⟨_, hp⟩, rfl⟩
  · rintro ⟨a, ha, rfl⟩
    obtain ⟨v, hp⟩ := (h w hw hn a).2 ha
    exact ⟨v, hp.bind (.done _ _)⟩

theorem Plays.answers_branch {F : ι → Prop} {a : ι → α} {h : ι → Nodes} {P : ι → β → Prop}
    (hp : s.Plays p n fun x k => ∃ i, F i ∧ x = a i ∧ k = h i)
    (hq : ∀ i, F i → s.Answers (q (a i)) (h i) (P i)) :
    s.Answers (p.bind q) n fun y => ∃ i, F i ∧ P i y := by
  intro w hw hn y
  constructor
  · rintro ⟨v, hr⟩
    obtain ⟨x, u, hp', hq'⟩ := hr.of_bind
    obtain ⟨hu, i, hi, rfl, hk⟩ := hp.sound w hw hn x u hp'
    exact ⟨i, hi, (hq i hi u hu hk y).1 ⟨v, hq'⟩⟩
  · rintro ⟨i, hi, hy⟩
    obtain ⟨u, hp', hk⟩ := hp.complete w hw hn _ _ ⟨i, hi, rfl, rfl⟩
    obtain ⟨hu, -⟩ := hp.sound w hw hn _ u hp'
    obtain ⟨v, hq'⟩ := (hq i hi u hu hk y).2 hy
    exact ⟨v, hp'.bind hq'⟩

theorem plays_direct {a : Action} (ha : a.IsDirect) {x : a.Answer}
    (h : ∀ w : World Fleet, w.net.Stands s.centers s.planes → ∃ net : Network Fleet,
      w.perform s.setting a = (x, { w with net := net }) ∧ net.Stands s.centers s.planes) :
    s.Plays (.act a .done) n fun y m => y = x ∧ m = n where
  sound := by
    rintro w hw hn y v (_ | ⟨hy, hr⟩)
    cases hr
    obtain ⟨net, hx, hs⟩ := h w hw
    obtain ⟨rfl, rfl⟩ := Prod.mk.inj ((hy.perform ha).symm.trans hx)
    exact ⟨hs, rfl, hn⟩
  complete := by
    rintro w hw hn y m ⟨rfl, rfl⟩
    obtain ⟨net, hx, hs⟩ := h w hw
    have performed := World.Awaits.direct (s := s.setting) (w := w) ha
    rw [hx] at performed
    exact ⟨_, .act performed (.done _ _), hn⟩

end

section

variable {p : ExceptT ε Proc α} {q : α → ExceptT ε Proc β} {F : ι → Prop} {a : ι → Except ε α}
  {b : ι → Except ε β} {h l : ι → Nodes}

theorem Yields.bind {Q : Except ε β → Nodes → Prop} {a : α} (hp : s.Yields p n (.ok a) k)
    (hq : s.Plays (q a).run k Q) : s.Plays (p >>= q).run n Q := by
  rw [Attempt.run_bind]
  exact Plays.then hp hq

theorem Yields.of_eq {r r' : Except ε α} (hp : s.Yields p n r m) (hr : r = r') :
    s.Yields p n r' m :=
  hr ▸ hp

theorem Yields.stop {e : ε} (hp : s.Yields p n (.error e) m) :
    s.Yields (p >>= q) n (.error e) m := by
  rw [Yields, Attempt.run_bind]
  exact Plays.then hp (plays_done _)

theorem Yields.answers {r : Except ε α} (hp : s.Yields p n r m) : s.Answers p.run n (· = r) :=
  (Plays.answers hp).congr fun _ => ⟨fun ⟨_, hx, _⟩ => hx, fun hx => ⟨m, hx, rfl⟩⟩

theorem Branches.answers (hp : s.Branches p n F a h) :
    s.Answers p.run n fun x => ∃ i, F i ∧ x = a i :=
  (Plays.answers hp).congr fun _ =>
    ⟨fun ⟨_, i, hi, hx, _⟩ => ⟨i, hi, hx⟩, fun ⟨i, hi, hx⟩ => ⟨h i, i, hi, hx, rfl⟩⟩

theorem Branches.bind (hp : s.Branches p n F a h)
    (ok : ∀ i x, F i → a i = .ok x → s.Yields (q x) (h i) (b i) (l i))
    (error : ∀ i e, F i → a i = .error e → b i = .error e ∧ l i = h i) :
    s.Branches (p >>= q) n F b l := by
  rw [Branches, Attempt.run_bind]
  refine Plays.branch hp fun i hi => ?_
  cases hx : a i with
  | ok x => exact ok i x hi hx
  | error e =>
    obtain ⟨hb, hl⟩ := error i e hi hx
    rw [hb, hl]
    exact plays_done _

end

end Scene

namespace Attempt

theorem yields_pure (a : α) : s.Yields (pure a : ExceptT ε Proc α) n (.ok a) n :=
  Scene.plays_done _

theorem yields_throw (e : ε) : s.Yields (throw e : ExceptT ε Proc α) n (.error e) n :=
  Scene.plays_done _

theorem yields_outcome_bind {p : Attempt α} {q : Except Error α → Attempt β} {r : Except Error α}
    {b : Except Error β} (hp : s.Yields p n r k) (hq : s.Yields (q r) k b m) :
    s.Yields (p.outcome >>= q) n b m := by
  rw [Scene.Yields, run_outcome_bind]
  exact Scene.Plays.then hp hq

theorem runs_of_nodes_bind {op : Nodes.Op} {q : op.Answer → Attempt β} {w v : World Fleet}
    {r : Except Error β} (h : (nodes op >>= q).run.RunsBy (World.Awaits s.setting) w r v) :
    (q (w.nodes.apply op).1).run.RunsBy (World.Awaits s.setting)
      { w with nodes := (w.nodes.apply op).2 } r v := by
  cases h with
  | act hx hr =>
    have performed := hx.perform trivial
    obtain ⟨hx, hu⟩ := Prod.mk.inj performed
    exact hx ▸ hu ▸ hr

theorem plays_nodes_bind {op : Nodes.Op} {q : op.Answer → Attempt β}
    {Q : Except Error β → Nodes → Prop} (bare : op.isBare = true)
    (hq : s.Plays (q (n.apply op).1).run (n.apply op).2 Q) :
    s.Plays (nodes op >>= q).run n Q where
  sound := by
    rintro w hw rfl b v hr
    rw [Nodes.apply_bare bare] at hq
    exact hq.sound { w with nodes := (w.nodes.apply op).2 } hw rfl b v (runs_of_nodes_bind hr)
  complete := by
    rintro w hw rfl b m hb
    rw [Nodes.apply_bare bare] at hq
    obtain ⟨v, hr, hv⟩ := hq.complete { w with nodes := (w.nodes.apply op).2 } hw rfl b m hb
    exact ⟨v, .act (.direct trivial) hr, hv⟩

theorem plays_lock_bind {op : Nodes.Op} {q : op.Answer → Attempt β}
    {Q : Except Error β → Nodes → Prop} (lock : op.isBare = false)
    (hq : ∀ x, s.Plays (q x).run n Q) : s.Plays (nodes op >>= q).run n Q where
  sound := by
    rintro w hw rfl b v hr
    exact (hq _).sound { w with nodes := (w.nodes.apply op).2 } hw
      (Nodes.bare_apply op lock w.nodes) b v (runs_of_nodes_bind hr)
  complete := by
    rintro w hw rfl b m hb
    obtain ⟨v, hr, hv⟩ := (hq (w.nodes.apply op).1).complete
      { w with nodes := (w.nodes.apply op).2 } hw (Nodes.bare_apply op lock w.nodes) b m hb
    exact ⟨v, .act (.direct trivial) hr, hv⟩

theorem branches_search (q : Query) : s.Branches (search q) n (s.Finds q) id fun _ => n where
  sound := by
    rintro w hw hn r v (_ | ⟨hx, hr⟩)
    cases hr
    obtain ⟨found, stands, nodes⟩ := Scene.finds_of_awaits hw hx
    exact ⟨stands, _, found, rfl, nodes ▸ hn⟩
  complete := by
    rintro w hw hn r m ⟨f, hf, rfl, rfl⟩
    obtain ⟨u, hu⟩ := Scene.awaits_of_finds hw hf
    obtain ⟨-, -, nodes⟩ := Scene.finds_of_awaits hw hu
    exact ⟨u, .act hu (.done _ _), nodes ▸ hn⟩

theorem yields_connect (host : String) :
    s.Yields (connect host) n (s.planes.greets s.centers host) n :=
  Scene.plays_direct (a := .connect host) trivial fun _ hw =>
    ⟨_, Prod.ext (hw.connect host).answer rfl, (hw.connect host).stands⟩

theorem yields_client (host : String) :
    s.Yields (client host) n ((s.planes.greets s.centers host).map fun _ => ⟨host, 0⟩) n :=
  Scene.plays_direct (a := .client host) trivial fun _ hw =>
    ⟨_, Prod.ext (hw.client host).answer rfl, (hw.client host).stands⟩

theorem yields_ask {q : Request} (hq : q.IsLook) (t : Session) :
    s.Yields (ask t q) n (s.planes.answers t q) n :=
  Scene.plays_direct (a := .ask t q) trivial fun _ hw =>
    ⟨_, Prod.ext (hw.ask hq t).answer rfl, (hw.ask hq t).stands⟩

theorem yields_clusterUuid (node : String) :
    s.Yields (clusterUuid node) n (s.setting.clusterUuid node) n :=
  Scene.plays_direct (a := .clusterUuid node) trivial fun w hw => ⟨w.net, rfl, hw⟩

theorem yields_session (host : String) (reconnect : Bool) :
    s.Yields (session host reconnect) n
      ((s.planes.greets s.centers host).map fun _ => ⟨host, 0⟩) n := by
  unfold session
  split
  · have connected := yields_connect (s := s) (n := n) host
    have opened := yields_client (s := s) (n := n) host
    cases hg : s.planes.greets s.centers host with
    | error e => exact (connected.of_eq hg).stop
    | ok u => exact (connected.of_eq hg).bind (hg ▸ opened)
  · exact yields_client host

end Attempt

theorem VirtualMachine.yields_renew (x : VirtualMachine) (reconnect : Bool) :
    s.Yields (x.renew reconnect) n (s.renews x) n := by
  have session := Attempt.yields_session (s := s) (n := n) x.host reconnect
  unfold renew Scene.renews
  cases hg : s.planes.greets s.centers x.host with
  | error e =>
    rw [hg] at session
    exact session.stop
  | ok u =>
    rw [hg] at session
    refine session.bind ?_
    have asked := Attempt.yields_ask (s := s) (n := n) (q := .machine x.id) trivial ⟨x.host, 0⟩
    cases ha : s.planes.answers ⟨x.host, 0⟩ (.machine x.id) with
    | error e => exact (asked.of_eq ha).stop
    | ok i => exact (asked.of_eq ha).bind (Attempt.yields_pure _)

def Nodes.met (n : Nodes) : Except Error VirtualMachine → Nodes
  | .ok v => { n with machines := n.machines.put v.uuid v }
  | .error _ => n

/-- The nodes once one more is registered, with what the search for it came to. -/
def Nodes.entered (n : Nodes) (name uuid : String) : Except Error VirtualMachine → Nodes
  | .ok v => { n with uuids := n.uuids.put name v.uuid, machines := n.machines.put v.uuid v }
  | .error _ => { n with uuids := n.uuids.put name uuid }

namespace Node

open Attempt

variable {uuid name : String}

theorem branches_find :
    s.Branches (find uuid name) n (s.Finds ⟨name, uuid⟩) id n.met := by
  unfold find
  refine (branches_search _).bind (fun r v hr hv => ?_) fun r e _ he => ?_
  · obtain rfl : r = .ok v := hv
    have hk : (if uuid = "" then v.uuid else uuid) = v.uuid := by
      split
      · rfl
      · exact (hr.uuid ‹_›).symm
    rw [hk]
    exact plays_nodes_bind rfl (yields_pure v)
  · obtain rfl : r = .error e := he
    exact ⟨rfl, rfl⟩

theorem plays_guarded {body : Attempt Unit} {Q : Except Error Unit → Nodes → Prop}
    (h : s.Plays body.run n Q) : s.Plays (guarded name body (pure ())).run n Q := by
  unfold guarded
  refine plays_lock_bind rfl fun l => plays_lock_bind rfl fun _ => ?_
  rw [run_outcome_bind]
  refine (h.bind (R := fun r k b m => b = r ∧ m = k) fun r k _ => ?_).congr fun b m => ?_
  · refine plays_lock_bind rfl fun _ => (yields_pure ()).bind ?_
    exact plays_lock_bind rfl fun _ => Scene.plays_done r
  · constructor
    · rintro ⟨r, k, hr, rfl, rfl⟩
      exact hr
    · exact fun hb => ⟨b, m, hb, rfl, rfl⟩

/-- A node is registered under the UUID of the machine that is found, or else as it was given. -/
theorem branches_register (hn : n.uuids.get? name = none) :
    s.Branches (register uuid name) n (s.Finds ⟨name, uuid⟩) (Except.map fun _ => ())
      (n.entered name uuid) := by
  refine plays_guarded ?_
  unfold enter
  refine plays_nodes_bind rfl ?_
  simp only [Nodes.apply, hn]
  refine Scene.Branches.bind branches_find (fun r v hr hv => ?_) fun r e _ he => ?_
  · obtain rfl : r = .ok v := hv
    split
    · refine plays_nodes_bind rfl ?_
      simp only [Nodes.apply, Nodes.met, Table.put_put]
      exact yields_pure ()
    · have hu : v.uuid = uuid := hr.uuid ‹_›
      simp only [Nodes.met, Nodes.entered, hu]
      exact yields_pure ()
  · obtain rfl : r = .error e := he
    exact ⟨rfl, rfl⟩

theorem yields_fetchUuid (name : String) : s.Yields (fetchUuid name) n (s.fetches name) n := by
  unfold fetchUuid Scene.fetches
  cases hu : s.setting.clusterUuid name with
  | error e => exact ((yields_clusterUuid name).of_eq hu).stop
  | ok uuid =>
    refine ((yields_clusterUuid name).of_eq hu).bind ?_
    dsimp only
    by_cases blank : uuid = ""
    · rw [if_pos blank, if_pos blank]
      exact yields_throw _
    · rw [if_neg blank, if_neg blank]
      exact yields_pure _

theorem yields_uuid {known : String} (hn : n.uuids.get? name = some known) (hk : known ≠ "") :
    s.Yields (Node.uuid name) n (.ok known) n := by
  unfold Node.uuid
  refine plays_nodes_bind rfl ?_
  simp only [Nodes.apply, hn, if_pos hk]
  exact yields_pure known

theorem yields_uuid_blank (hn : n.uuids.get? name = some "") :
    ∃ m, s.Yields (Node.uuid name) n (s.fetches name) m ∧ m.machines = n.machines := by
  unfold Node.uuid
  cases hf : s.fetches name with
  | error e =>
    refine ⟨n, plays_nodes_bind rfl ?_, rfl⟩
    simp only [Nodes.apply, hn, ne_eq, not_true_eq_false, if_false]
    exact ((yields_fetchUuid name).of_eq hf).stop
  | ok u =>
    refine ⟨{ n with uuids := n.uuids.put name u }, plays_nodes_bind rfl ?_, rfl⟩
    simp only [Nodes.apply, hn, ne_eq, not_true_eq_false, if_false]
    exact ((yields_fetchUuid name).of_eq hf).bind (plays_nodes_bind rfl (yields_pure u))

theorem yields_machine (name : String) {x : VirtualMachine} (hn : n.machines.get? uuid = some x) :
    ∃ m, s.Yields (machine uuid name) n (s.renews x) m := by
  unfold machine
  cases hr : s.renews x with
  | error e =>
    refine ⟨n, plays_nodes_bind rfl ?_⟩
    simp only [Nodes.apply, hn]
    exact ((x.yields_renew true).of_eq hr).stop
  | ok y =>
    refine ⟨(n.apply (.refresh uuid y)).2, plays_nodes_bind rfl ?_⟩
    simp only [Nodes.apply, hn]
    exact ((x.yields_renew true).of_eq hr).bind (plays_nodes_bind rfl (yields_pure y))

theorem branches_machine (name : String) (hn : n.machines.get? uuid = none) :
    s.Branches (machine uuid name) n (s.Finds ⟨name, uuid⟩) id n.met := by
  refine plays_nodes_bind rfl ?_
  simp only [Nodes.apply, hn]
  exact branches_find

theorem answers_machineOf {v : VirtualMachine} (hn : n.uuids.get? name = some v.uuid)
    (hv : v.uuid ≠ "") (kept : n.machines.get? v.uuid = some v) :
    s.Answers (machineOf name).run n (· = s.renews v) := by
  obtain ⟨m, found⟩ := yields_machine (s := s) name kept
  have renewed : s.Yields (machineOf name) n (s.renews v) m := (yields_uuid hn hv).bind found
  exact renewed.answers

/-- The UUID from the cluster is what is left to search by. -/
theorem answers_machineOf_blank (hn : n.uuids.get? name = some "") (unmet : n.machines = []) :
    s.Answers (machineOf name).run n fun r => (∃ e, s.fetches name = .error e ∧ r = .error e) ∨
      ∃ uuid, s.fetches name = .ok uuid ∧ s.Finds ⟨name, uuid⟩ r := by
  obtain ⟨k, fetched, machines⟩ := yields_uuid_blank (s := s) hn
  unfold machineOf
  cases hf : s.fetches name with
  | error e =>
    have failed := (fetched.of_eq hf).stop (q := fun uuid => machine uuid name)
    exact failed.answers.congr fun r => by simp
  | ok known =>
    have none : k.machines.get? known = none := by rw [machines, unmet]; rfl
    have found : s.Branches (uuid name >>= fun uuid => machine uuid name) n
        (s.Finds ⟨name, known⟩) id k.met :=
      (fetched.of_eq hf).bind (branches_machine name none)
    exact found.answers.congr fun r => by simp

theorem yields_fill (names : List String) (n : Nodes) :
    ∃ m, s.Yields (fill names) n (.ok ()) m ∧ m.machines = n.machines := by
  induction names generalizing n with
  | nil => exact ⟨n, yields_pure (), rfl⟩
  | cons name names ih =>
    have fetched := yields_fetchUuid (s := s) (n := n) name
    unfold fill
    cases hf : s.fetches name with
    | error e =>
      obtain ⟨m, hm, machines⟩ := ih n
      refine ⟨m, yields_outcome_bind (fetched.of_eq hf) ?_, machines⟩
      exact hm
    | ok u =>
      obtain ⟨m, hm, machines⟩ := ih { n with uuids := n.uuids.put name u }
      exact ⟨m, yields_outcome_bind (fetched.of_eq hf) (plays_nodes_bind rfl hm), machines⟩

theorem yields_renewAll {t : Table VirtualMachine} (ht : ∀ p ∈ t, ∃ x, s.renews p.2 = .ok x)
    (met : List String) (n : Nodes) : ∃ xs m, s.Yields (renewAll met t) n (.ok xs) m ∧
      t.map (fun p => s.renews p.2) = xs.map .ok := by
  induction t generalizing met n with
  | nil => exact ⟨[], n, yields_pure [], rfl⟩
  | cons p t ih =>
    obtain ⟨uuid, y⟩ := p
    obtain ⟨x, hx⟩ := ht _ List.mem_cons_self
    obtain ⟨xs, m, hm, hxs⟩ := ih (fun p hp => ht p (List.mem_cons_of_mem _ hp)) (x.host :: met)
      (n.apply (.refresh uuid x)).2
    refine ⟨x :: xs, m, ?_, congrArg₂ List.cons hx hxs⟩
    unfold renewAll
    exact ((y.yields_renew _).of_eq hx).bind (plays_nodes_bind rfl (hm.bind (yields_pure _)))

theorem yields_sweep (hn : ∀ p ∈ n.machines, ∃ x, s.renews p.2 = .ok x) :
    ∃ xs m, s.Yields sweep n (.ok xs) m ∧
      n.machines.map (fun p => s.renews p.2) = xs.map .ok := by
  obtain ⟨k, filled, machines⟩ := yields_fill (s := s) (n.apply .blanks).1 n
  obtain ⟨xs, m, hm, hxs⟩ := yields_renewAll (machines ▸ hn) [] k
  refine ⟨xs, m, ?_, machines ▸ hxs⟩
  unfold sweep
  exact plays_nodes_bind rfl (filled.bind (plays_nodes_bind rfl hm))

end Node

end StorageDriver
