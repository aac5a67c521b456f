import StorageDriver.Proofs.Crowd
import StorageDriver.Proofs.MachineEdits

namespace StorageDriver

def World.serve (s : Setting) : Crowd.Service (World Fleet) := fun _ a w => some (w.perform s a)

section

variable {α β : Type} (s : Setting) (I : World Fleet → Prop) (may : Action → Prop)

/-- A procedure does what it may and keeps `I`, whatever others do in between that keep it too, and
ends as `post` says. -/
def Proc.Relies (post : α → Prop) : Proc α → Prop
  | .done a => post a
  | .act a next =>
    may a ∧ ∀ w, I w → I (World.perform s a w).2 ∧ (next (World.perform s a w).1).Relies post

variable {s I may}

theorem Proc.Relies.bind {mid : α → Prop} {post : β → Prop} {p : Proc α} {f : α → Proc β}
    (hp : p.Relies s I may mid) (hf : ∀ a, mid a → (f a).Relies s I may post) :
    (p.bind f).Relies s I may post := by
  induction p with
  | done a => exact hf a hp
  | act a next ih => exact ⟨hp.1, fun w hw => ⟨(hp.2 w hw).1, ih _ (hp.2 w hw).2⟩⟩

theorem Proc.Relies.imp {mid post : α → Prop} {p : Proc α} (h : p.Relies s I may mid)
    (hp : ∀ a, mid a → post a) : p.Relies s I may post := by
  induction p with
  | done a => exact hp a h
  | act a next ih => exact ⟨h.1, fun w hw => ⟨(h.2 w hw).1, ih _ (h.2 w hw).2⟩⟩

/-- A crowd of such procedures keeps `I` and does what it may. -/
theorem Crowd.relies_follow {post : α → Prop} {c d : Crowd (World Fleet) α} {is : List Nat}
    (hi : I c.store) (hm : ∀ p ∈ c.members, p.Relies s I may post) (hl : ∀ e ∈ c.log, may e.action)
    (h : c.follow (World.serve s) is = some d) : ∀ e ∈ d.log, may e.action := by
  refine (follow_induction (P := fun u => I u.store ∧ (∀ p ∈ u.members, p.Relies s I may post) ∧
    ∀ e ∈ u.log, may e.action) ⟨hi, hm, hl⟩ (fun u v i ⟨hi, hm, hl⟩ hv => ?_) h).2.2
  obtain ⟨a, next, x, w, ha, hx, rfl⟩ := step_eq_some hv
  obtain ⟨rfl, rfl⟩ := Prod.mk.inj (Option.some.inj hx)
  obtain ⟨hmay, hn⟩ := hm _ (List.mem_of_getElem? ha)
  obtain ⟨hi, hn⟩ := hn u.store hi
  refine ⟨hi, fun p hp => ?_, fun e he => ?_⟩
  · obtain hp | rfl := List.mem_or_eq_of_mem_set hp
    · exact hm p hp
    · exact hn
  · obtain he | he := List.mem_append.1 he
    · exact hl e he
    · rw [List.mem_singleton.1 he]
      exact hmay

end

namespace Attempt

variable {α β : Type} (s : Setting) (I : World Fleet → Prop) (may : Action → Prop)

def Relies (post : α → Prop) (p : Attempt α) : Prop :=
  p.run.Relies s I may fun r => ∀ a, r = .ok a → post a

variable {s I may}

theorem relies_pure {post : α → Prop} {a : α} (h : post a) :
    (pure a : Attempt α).Relies s I may post := by
  intro b hb
  exact Except.ok.inj hb ▸ h

theorem relies_throw {post : α → Prop} (e : Error) :
    (throw e : Attempt α).Relies s I may post := by
  intro b hb
  cases hb

theorem relies_bind (mid : α → Prop) {post : β → Prop} {p : Attempt α} {f : α → Attempt β}
    (hp : p.Relies s I may mid) (hf : ∀ a, mid a → (f a).Relies s I may post) :
    (p >>= f).Relies s I may post := by
  unfold Relies
  rw [run_bind]
  refine Proc.Relies.bind hp fun r hr => ?_
  cases r with
  | ok a => exact hf a (hr a rfl)
  | error e =>
    intro b hb
    cases hb

theorem Relies.imp {mid post : α → Prop} {p : Attempt α} (h : p.Relies s I may mid)
    (hp : ∀ a, mid a → post a) : p.Relies s I may post :=
  Proc.Relies.imp h fun _ hr a ha => hp a (hr a ha)

theorem relies_of_all {p : Attempt α} (h : p.run.All Action.IsIdle)
    (keep : ∀ a : Action, a.IsIdle → may a ∧ ∀ w, I w → I (World.perform s a w).2) :
    p.Relies s I may fun _ => True := by
  unfold Relies
  generalize p.run = q at h
  induction q with
  | done r => exact fun _ _ => trivial
  | act a next ih =>
    obtain ⟨hmay, hi⟩ := keep a h.1
    exact ⟨hmay, fun w hw => ⟨hi w hw, ih _ (h.2 _)⟩⟩

end Attempt

namespace World

/-- The UUID of a node is the one registered for it, or where that is empty the cluster's. -/
def Names (s : Setting) (w : World Fleet) (node uuid : String) : Prop :=
  uuid ≠ "" ∧ (w.nodes.uuids.get? node = some uuid ∨
    w.nodes.uuids.get? node = some "" ∧ s.clusterUuid node = .ok uuid)

/-- The machine of a node is the one that was found, or if none was one that has its UUID. -/
def Houses (w : World Fleet) (uuid host id : String) : Prop :=
  (∃ m, w.nodes.machines.get? uuid = some m ∧ m.host = host ∧ m.id = id) ∨
    w.nodes.machines.get? uuid = none ∧ ∃ i, w.document host id = some i ∧ i.uuid = uuid

/-- What others may make of `w` that look for the machine of `node` and change disks. -/
structure Remembers (s : Setting) (node : String) (w u : World Fleet) : Prop where
  proper : u.Proper
  registered : u.nodes.uuids.get? node = w.nodes.uuids.get? node ∨
    ∃ uuid, w.Names s node uuid ∧ u.nodes.uuids.get? node = some uuid
  found : ∀ uuid m, w.Names s node uuid → u.nodes.machines.get? uuid = some m →
    w.Houses uuid m.host m.id
  kept : ∀ uuid, u.nodes.machines.get? uuid = none → w.nodes.machines.get? uuid = none
  documents : ∀ host id i, u.document host id = some i →
    ∃ j, w.document host id = some j ∧ j.uuid = i.uuid

variable {s : Setting} {node : String} {w u : World Fleet}

theorem Remembers.refl (hw : w.Proper) : Remembers s node w w where
  proper := hw
  registered := .inl rfl
  found _ m _ hm := .inl ⟨m, hm, rfl, rfl⟩
  kept _ hm := hm
  documents _ _ i hi := ⟨i, hi, rfl⟩

namespace Remembers

theorem of_same (h : Remembers s node w u) {v : World Fleet} (hp : v.Proper)
    (hn : v.nodes = u.nodes) (hd : v.document = u.document) : Remembers s node w v where
  proper := hp
  registered := hn ▸ h.registered
  found := hn ▸ h.found
  kept := hn ▸ h.kept
  documents := hd ▸ h.documents

theorem other (h : Remembers s node w u) {a : Action} (ha : a.puts? = none)
    (hn : (perform s a u).2.nodes = u.nodes) : Remembers s node w (perform s a u).2 := by
  obtain ⟨hp, hm⟩ := (Performs.act a).other h.proper ha
  exact h.of_same hp hn (document_of_machines hm)

theorem idle (h : Remembers s node w u) {a : Action} (ha : a.IsIdle) :
    Remembers s node w (perform s a u).2 := by
  refine h.other ha.puts ?_
  cases a with
  | nodes op => cases ha
  | _ => rfl

theorem put (h : Remembers s node w u) {session : Session} {doc : VmInfo}
    (hd : ∃ j, w.document session.host doc.id = some j ∧ j.uuid = doc.uuid) :
    Remembers s node w (perform s (.ask session (.command (.putMachine doc))) u).2 := by
  cases ha : Action.accepted? (.ask session (.command (.putMachine doc)))
      (perform s (.ask session (.command (.putMachine doc))) u).1 with
  | none =>
    obtain ⟨hp, hs⟩ := (Performs.act _).unaccepted h.proper ha
    exact h.of_same hp rfl hs
  | some doc' =>
    obtain ⟨hp, host, hput, hk, hother⟩ := (Performs.act _).accepted h.proper ha
    obtain ⟨rfl, rfl⟩ := Prod.mk.inj (Option.some.inj hput)
    refine ⟨hp, h.registered, h.found, h.kept, fun k id i hi => ?_⟩
    by_cases hne : k = session.host ∧ id = doc.id
    · obtain ⟨rfl, rfl⟩ := hne
      rw [hk] at hi
      obtain rfl := Option.some.inj hi
      exact hd
    · rw [hother k id hne] at hi
      exact h.documents k id i hi

theorem register (h : Remembers s node w u) {uuid : String} (hu : w.Names s node uuid) :
    Remembers s node w (perform s (.nodes (.setUuid node uuid)) u).2 where
  proper := ⟨h.proper.net, h.proper.numbered⟩
  registered := .inr ⟨uuid, hu, (Table.get?_put ..).trans (if_pos rfl)⟩
  found := h.found
  kept := h.kept
  documents := h.documents

theorem keep (h : Remembers s node w u) {uuid : String} {m : VirtualMachine} {n : Nodes}
    (hm : w.Houses uuid m.host m.id) (hn : n.uuids = u.nodes.uuids)
    (hk : n.machines = u.nodes.machines.put uuid m) :
    Remembers s node w { u with nodes := n } where
  proper := ⟨h.proper.net, h.proper.numbered⟩
  registered := hn ▸ h.registered
  found uuid' m' hu hm' := by
    rw [hk, Table.get?_put] at hm'
    split at hm'
    · rename_i he
      subst he
      exact Option.some.inj hm' ▸ hm
    · exact h.found uuid' m' hu hm'
  kept uuid' hm' := by
    rw [hk, Table.get?_put] at hm'
    split at hm'
    · cases hm'
    · exact h.kept uuid' hm'
  documents := h.documents

end Remembers

/-- Documents are put of machines of the node only. -/
def Allows (s : Setting) (node : String) (w : World Fleet) (a : Action) : Prop :=
  ∀ host doc, a.puts? = some (host, doc) →
    ∃ uuid k, w.Names s node uuid ∧ w.Houses uuid k doc.id ∧ ∃ i, w.document k doc.id = some i

theorem allows_of_none {a : Action} (h : a.puts? = none) : Allows s node w a := by
  intro host doc hd
  rw [h] at hd
  cases hd

/-- A machine that has the UUID it always had. -/
def Knows (w : World Fleet) (m : VirtualMachine) : Prop :=
  ∃ j, w.document m.host m.id = some j ∧ j.uuid = m.info.uuid

end World

section

open World Attempt

variable {α : Type} {s : Setting} {node : String} {w : World Fleet}

/-- Look for the machine of a node while others do the same and change disks. -/
def Attempt.Seeks (s : Setting) (node : String) (w : World Fleet) (post : α → Prop)
    (p : Attempt α) : Prop :=
  p.Relies s (Remembers s node w) (Allows s node w) post

namespace Attempt

theorem seeks_of_all {p : Attempt α} (h : p.run.All Action.IsIdle) :
    p.Seeks s node w fun _ => True :=
  relies_of_all h fun _ ha => ⟨allows_of_none ha.puts, fun _ hu => hu.idle ha⟩

theorem seeks_client (host : String) : (client host).Seeks s node w fun t => t.host = host := by
  refine ⟨allows_of_none rfl, fun u hu => ⟨hu.idle trivial, fun t ht => ?_⟩⟩
  have hf := (Performs.act (s := s) (.client host)).fits hu.proper
  rw [ht] at hf
  exact hf

theorem seeks_session (host : String) (reconnect : Bool) :
    (session host reconnect).Seeks s node w fun t => t.host = host := by
  unfold session
  cases reconnect with
  | true =>
    exact relies_bind _ (seeks_of_all ⟨trivial, fun _ => trivial⟩) fun _ _ => seeks_client host
  | false => exact seeks_client host

theorem seeks_machine (t : Session) (id : String) :
    (ask t (.machine id)).Seeks s node w fun i =>
      i.id = id ∧ ∃ j, w.document t.host id = some j ∧ j.uuid = i.uuid := by
  refine ⟨allows_of_none rfl, fun u hu => ⟨hu.other rfl rfl, fun i hi => ?_⟩⟩
  obtain ⟨hid, hd⟩ := document_of_ask hi
  rw [hid] at hd
  exact ⟨hid, hu.documents t.host id i hd⟩

end Attempt

theorem VirtualMachine.seeks_renew (m : VirtualMachine) (reconnect : Bool) :
    (m.renew reconnect).Seeks s node w fun m' =>
      m'.host = m.host ∧ m'.id = m.id ∧ w.Knows m' := by
  refine relies_bind _ (seeks_session m.host reconnect) fun t ht => ?_
  refine relies_bind _ (seeks_machine t m.id) fun i hi => relies_pure ?_
  obtain ⟨hid, j, hj, hu⟩ := hi
  refine ⟨rfl, hid, j, ?_, hu⟩
  show w.document m.host i.id = some j
  rw [← ht, hid]
  exact hj

namespace Node

theorem seeks_find {uuid : String} (hu : w.Names s node uuid)
    (hn : w.nodes.machines.get? uuid = none) :
    (find uuid node).Seeks s node w fun m => w.Houses uuid m.host m.id ∧ w.Knows m := by
  refine relies_bind (fun m => w.Houses uuid m.host m.id ∧ w.Knows m) ?_ fun m hm => ?_
  · refine ⟨allows_of_none rfl, fun u h => ⟨h.other rfl rfl, fun m hm => ?_⟩⟩
    have found := Performs.act (s := s) (w := u) (.search ⟨node, uuid⟩)
    rw [hm] at found
    obtain ⟨hit, hd⟩ := found.found h.proper
    have hd := h.documents _ _ _ hd
    have hh : m.info.uuid = uuid := by simpa [Query.hits, hu.1] using hit
    obtain ⟨j, hj, hju⟩ := hd
    exact ⟨.inr ⟨hn, j, hj, hju.trans hh⟩, j, hj, hju⟩
  · have keep : (nodes (.keep uuid m)).Seeks s node w fun _ => True :=
      ⟨allows_of_none rfl, fun u h => ⟨h.keep hm.1 rfl rfl, fun _ _ => trivial⟩⟩
    rw [if_neg hu.1]
    exact relies_bind _ keep fun _ _ => relies_pure hm

theorem seeks_fetchUuid (h : w.nodes.uuids.get? node = some "") :
    (fetchUuid node).Seeks s node w (w.Names s node) := by
  have ask : (clusterUuid node).Seeks s node w fun x => s.clusterUuid node = .ok x :=
    ⟨allows_of_none rfl, fun u hu => ⟨hu.idle trivial, fun x hx => hx⟩⟩
  refine relies_bind _ ask fun x hx => ?_
  split
  · exact relies_bind (fun _ => False) (relies_throw _) fun _ h => h.elim
  · rename_i hne
    exact relies_pure ⟨hne, .inr ⟨h, hx⟩⟩

theorem seeks_uuid : (uuid node).Seeks s node w (w.Names s node) := by
  have look : (nodes (.uuid node)).Seeks s node w fun known => ∀ x, known = some x →
      x = "" ∧ w.nodes.uuids.get? node = some "" ∨ w.Names s node x := by
    refine ⟨allows_of_none rfl, fun u h => ⟨h.other rfl rfl, fun known hk x hx => ?_⟩⟩
    obtain rfl : u.nodes.uuids.get? node = known := Except.ok.inj hk
    obtain hw | ⟨y, hy, hn⟩ := h.registered
    · rw [hw] at hx
      by_cases he : x = ""
      · exact .inl ⟨he, he ▸ hx⟩
      · exact .inr ⟨he, .inl hx⟩
    · obtain rfl : y = x := Option.some.inj (hn.symm.trans hx)
      exact .inr hy
  refine relies_bind _ look fun known hk => ?_
  cases known with
  | none => exact relies_throw _
  | some x =>
    dsimp only
    obtain ⟨rfl, he⟩ | hn := hk x rfl
    · refine relies_bind _ (seeks_fetchUuid he) fun y hy => ?_
      have register : (nodes (.setUuid node y)).Seeks s node w fun _ => True :=
        ⟨allows_of_none rfl, fun u h => ⟨h.register hy, fun _ _ => trivial⟩⟩
      exact relies_bind _ register fun _ _ => relies_pure hy
    · rw [if_pos hn.1]
      exact relies_pure hn

/-- Who resolves a node finds its machine, and the machine has the UUID it always had. -/
theorem seeks_machineOf :
    (machineOf node).Seeks s node w fun m =>
      (∃ uuid, w.Names s node uuid ∧ w.Houses uuid m.host m.id) ∧ w.Knows m := by
  refine relies_bind _ seeks_uuid fun uuid hu => ?_
  have look : (nodes (.machine uuid)).Seeks s node w fun known =>
      (known = none → w.nodes.machines.get? uuid = none) ∧
        ∀ m, known = some m → w.Houses uuid m.host m.id := by
    refine ⟨allows_of_none rfl, fun u h => ⟨h.other rfl rfl, fun known hk => ?_⟩⟩
    obtain rfl : u.nodes.machines.get? uuid = known := Except.ok.inj hk
    exact ⟨h.kept uuid, fun m => h.found uuid m hu⟩
  refine relies_bind _ look fun known hk => ?_
  cases known with
  | none => exact (seeks_find hu (hk.1 rfl)).imp fun m hm => ⟨⟨uuid, hu, hm.1⟩, hm.2⟩
  | some m =>
    refine relies_bind _ (m.seeks_renew true) fun m' hm => ?_
    obtain ⟨hh, hid, hm⟩ := hm
    have hm' : w.Houses uuid m'.host m'.id := hh ▸ hid ▸ hk.2 m rfl
    have refresh : (nodes (.refresh uuid m')).Seeks s node w fun _ => True := by
      refine ⟨allows_of_none rfl, fun u h => ⟨?_, fun _ _ => trivial⟩⟩
      show Remembers s node w { u with nodes := if _ then _ else _ }
      split
      · exact h.keep hm' rfl rfl
      · exact h
    exact relies_bind _ refresh fun _ _ => relies_pure ⟨⟨uuid, hu, hm'⟩, hm⟩

end Node

namespace Csi

/-- Only the machine of the node gets another document where all machines are on the plane of the
volumes. -/
theorem seeks_publish {v : Volumes} (id : String)
    (lone : ∀ host id, host ≠ v.host → w.document host id = none) :
    (publish v id node).Seeks s node w fun _ => True := by
  refine relies_bind _ (seeks_of_all (all_need _ id)) fun _ _ => ?_
  refine relies_bind _ (seeks_of_all (all_need _ node)) fun _ _ => ?_
  refine relies_bind _ Node.seeks_machineOf fun m hm => ?_
  obtain ⟨⟨uuid, hu, hh⟩, j, hj, hju⟩ := hm
  have hv : m.host = v.host := Decidable.byContradiction fun hv => by
    rw [lone m.host m.id hv] at hj
    cases hj
  have put (t : Session) (ht : t.host = v.host) (d : VolumeInfo) :
      (ask t (.command (.putMachine (m.info.withDisk d)))).Seeks s node w fun _ => True := by
    refine ⟨fun k doc hd => ?_, fun u h => ⟨h.put ⟨j, ?_, hju⟩, fun _ _ => trivial⟩⟩
    · obtain ⟨rfl, rfl⟩ := Prod.mk.inj (Option.some.inj hd)
      exact ⟨uuid, m.host, hu, hh, j, hj⟩
    · rw [ht, ← hv]
      exact hj
  have attach : (v.attach m id).Seeks s node w fun _ => True := by
    refine relies_bind _ (seeks_session v.host true) fun t ht => ?_
    refine relies_bind (fun _ => True) (seeks_of_all ⟨trivial, fun _ => trivial⟩) fun d _ => ?_
    refine relies_bind (fun _ => True) ?_ fun _ _ => (m.seeks_renew false).imp fun _ _ => trivial
    exact relies_bind _ (put t ht d) fun _ _ =>
      seeks_of_all (v.poller.all_wait trivial fun _ => trivial)
  refine relies_bind _ attach fun m' _ => seeks_of_all ?_
  exact all_bind trivial fun _ => trivial

end Csi

end

end StorageDriver
