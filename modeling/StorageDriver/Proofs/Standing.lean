import StorageDriver.Fleet
import StorageDriver.Proofs.Connections

namespace StorageDriver

namespace Plane

/-- The plane with nothing counted. -/
def still (p : Plane) : Plane := { p with calls := {}, listed := [] }

theorem still_start (p : Plane) (q : Request) : (p.start q).2.still = p.still := by
  cases q <;> rfl

variable {p : Plane}

theorem answered_datacenters {all : List DatacenterInfo} (h : (p.finish .datacenters).1 = .ok all) :
    p.datacenters = all := by
  simp only [finish] at h
  split at h
  · cases h
  · exact Except.ok.inj h

theorem answered_machines {id : String} {ms : List VmInfo}
    (h : (p.finish (.machines id)).1 = .ok ms) :
    p.machines.filter (·.datacenter = id) = ms := by
  simp only [finish] at h
  split at h
  · cases h
  · split at h
    · exact Except.ok.inj h
    · cases h

theorem isRemote_of_connect {host : String} {e : Error} (h : (p.connect host).1 = .error e) :
    e.isRemote = true := by
  simp only [connect] at h
  split at h
  · exact Except.error.inj h ▸ rfl
  · cases h

theorem isRemote_of_find? {α : Type} {o : Option α} {what id : String} {e : Error}
    (h : o.elim (.error (notFound what id)) .ok = Except.error e) : e.isRemote = true := by
  cases o with
  | none => exact Except.error.inj h ▸ rfl
  | some a => cases h

theorem isRemote_of_obey {c : Command} {e : Error} (h : (p.obey c).1 = .error e) :
    e.isRemote = true := by
  cases c with
  | putMachine doc | createVolume order | deleteVolume id wipe | putVolume doc =>
    simp only [obey] at h
    split at h
    · cases h
    · exact Except.error.inj h ▸ rfl

theorem isRemote_of_finish {q : Request} {e : Error} (h : (p.finish q).1 = .error e) :
    e.isRemote = true := by
  cases q with
  | datacenters =>
    simp only [finish] at h
    split at h
    · exact Except.error.inj h ▸ rfl
    · cases h
  | machines id =>
    simp only [finish] at h
    split at h
    · exact Except.error.inj h ▸ rfl
    · split at h
      · cases h
      · exact Except.error.inj h ▸ rfl
  | machine id =>
    simp only [finish] at h
    split at h
    · exact Except.error.inj h ▸ rfl
    · exact isRemote_of_find? h
  | datacenter id | volume id => exact isRemote_of_find? h
  | volumes dataStore => cases h
  | task id =>
    simp only [finish, readTask] at h
    split at h
    · exact Except.error.inj h ▸ rfl
    · cases h
  | command c => exact isRemote_of_obey h

theorem isPlain_of_connect {host : String} {e : Error} (h : (p.connect host).1 = .error e) :
    e.IsPlain :=
  Error.isPlain_of_isRemote (isRemote_of_connect h)

theorem isPlain_of_finish {q : Request} {e : Error} (h : (p.finish q).1 = .error e) : e.IsPlain :=
  Error.isPlain_of_isRemote (isRemote_of_finish h)

end Plane

namespace Fleet

theorem run_actAt {α : Type} (host : String) (f : Plane → Except Error α × Plane) (fleet : Fleet) :
    (actAt host f).run.run fleet = match fleet.get? host with
      | some p => ((f p).1, fleet.put host (f p).2)
      | none => (.error (unreachable host), fleet) := by
  cases h : fleet.get? host <;> simp [actAt, ExceptT.run, StateT.run, h]

theorem run_start (s : Session) (q : Request) (f : Fleet) :
    (Remote.start s q).run f = match f.get? s.host with
      | some p => ((p.start q).1, f.put s.host (p.start q).2)
      | none => (0, f) := by
  cases h : f.get? s.host <;> simp [Remote.start, StateT.run, h]

theorem run_connect (c : Center.Config) (fleet : Fleet) :
    (Remote.connect (R := Fleet) c).run.run fleet = match fleet.get? c.host with
      | some p =>
        ((p.connect c.host).1.map fun _ => ⟨c.host, 0⟩, fleet.put c.host (p.connect c.host).2)
      | none => (.error (unreachable c.host), fleet) := by
  show (do
    actAt c.host fun p => p.connect c.host
    return { host := c.host, slot := 0 } : Call Fleet Session).run.run fleet = _
  rw [Call.run_bind, run_actAt]
  cases fleet.get? c.host with
  | none => rfl
  | some p =>
    dsimp only
    cases (p.connect c.host).1 <;> rfl

theorem fails : Remote.Fails Fleet (·.isRemote = true) where
  connect c f e he := by
    rw [run_connect] at he
    split at he
    · rename_i p _
      cases hc : (p.connect c.host).1 with
      | ok u => rw [hc] at he; cases he
      | error e' => rw [hc] at he; exact Except.error.inj he ▸ Plane.isRemote_of_connect hc
    · exact Except.error.inj he ▸ rfl
  finish s q f e he := by
    change ((actAt s.host fun p => p.finish q).run.run f).1 = _ at he
    rw [run_actAt] at he
    split at he
    · exact Plane.isRemote_of_finish he
    · exact Except.error.inj he ▸ rfl

theorem isPlain : Remote.IsPlain Fleet where
  connect c f e he := Error.isPlain_of_isRemote (fails.connect c f e he)
  finish s q f e he := Error.isPlain_of_isRemote (fails.finish s q f e he)

/-- Both have the same planes, up to what is counted. -/
def Alike (f g : Fleet) : Prop :=
  ∀ host, (f.get? host).map Plane.still = (g.get? host).map Plane.still

theorem Alike.put {f g : Fleet} (h : f.Alike g) {host : String} {p q : Plane}
    (hp : f.get? host = some p) (hq : q.still = p.still) : Alike (f.put host q) g := by
  intro k
  rw [Table.get?_put]
  by_cases hk : host = k
  · subst hk
    rw [if_pos rfl, ← h host, hp]
    exact congrArg some hq
  · rw [if_neg hk]
    exact h k

def offered (f : Fleet) (c : Center.Config) : List Datacenter :=
  ((f.get? c.host).map fun p => Network.select c p.datacenters).getD []

def residents (f : Fleet) (host id : String) : List VmInfo :=
  ((f.get? host).map fun p => p.machines.filter (·.datacenter = id)).getD []

theorem mem_offered {f : Fleet} {c : Center.Config} {d : Datacenter} :
    d ∈ f.offered c ↔ ∃ p, f.get? c.host = some p ∧
      ∃ i ∈ p.datacenters, c.allows i.id i.name = true ∧ .ofInfo c.host i = d := by
  cases hp : f.get? c.host with
  | none => simp [offered, hp]
  | some p => simp [offered, Network.select, hp, and_assoc]

theorem residents_of_get? {f : Fleet} {host : String} {p : Plane} (hp : f.get? host = some p)
    (id : String) : f.residents host id = p.machines.filter (·.datacenter = id) := by
  simp [residents, hp]

theorem Alike.offered {f g : Fleet} (h : f.Alike g) (c : Center.Config) :
    f.offered c = g.offered c := by
  have hs := congrArg (Option.map fun p => Network.select c p.datacenters) (h c.host)
  rw [Option.map_map, Option.map_map] at hs
  exact congrArg (Option.getD · []) hs

theorem Alike.residents {f g : Fleet} (h : f.Alike g) (host id : String) :
    f.residents host id = g.residents host id := by
  have hs := congrArg (Option.map fun p => p.machines.filter (·.datacenter = id)) (h host)
  rw [Option.map_map, Option.map_map] at hs
  exact congrArg (Option.getD · []) hs

end Fleet

namespace Network

/-- The centers stand before the planes `f`, up to what is counted. -/
structure Shows (f : Fleet) (n : Network Fleet) : Prop where
  proper : n.Proper
  alike : n.planes.Alike f

/-- A call that changed nothing: it answered as `P` says or failed. -/
structure Looked {α : Type} (f : Fleet) (P : α → Prop) (x : Except Error α × Network Fleet) :
    Prop where
  shows : x.2.Shows f
  ok : ∀ a, x.1 = .ok a → P a
  error : ∀ e, x.1 = .error e → e.IsPlain

variable {f : Fleet} {n : Network Fleet} {host : String}

theorem Looked.map {α β : Type} {P : α → Prop} {Q : β → Prop} {r : Except Error α}
    {g : α → β} (h : Looked f P (r, n)) (hg : ∀ a, P a → Q (g a)) : Looked f Q (r.map g, n) where
  shows := h.shows
  ok b hb := by
    cases r with
    | ok a => exact Except.ok.inj hb ▸ hg a (h.ok a rfl)
    | error e => cases hb
  error e he := by
    cases r with
    | ok a => cases he
    | error e' => exact Except.error.inj he ▸ h.error e' rfl

theorem Looked.of_error {α : Type} {P : α → Prop} {e : Error} (h : n.Shows f) (he : e.IsPlain) :
    Looked f P (.error e, n) where
  shows := h
  ok _ ha := nomatch ha
  error _ he' := Except.error.inj he' ▸ he

theorem Looked.of_ok {α : Type} {P : α → Prop} {a : α} (h : n.Shows f) (ha : P a) :
    Looked f P (.ok a, n) where
  shows := h
  ok _ ha' := Except.ok.inj ha' ▸ ha
  error _ he := nomatch he

theorem Proper.put {R : Type} {n : Network R} (h : n.Proper) {hd : Center.Handle} {s : Session}
    (hc : hd.config.host = host) (hs : s.host = host) (planes : R) :
    { n with
      planes := planes,
      centers := n.centers.put host { hd with session := some s } }.Proper := by
  intro k h' hk
  simp only [Table.get?_put] at hk
  by_cases hh : host = k
  · rw [if_pos hh] at hk
    obtain rfl := Option.some.inj hk
    exact ⟨hc.trans hh, fun s' hs' => Option.some.inj hs' ▸ hs.trans hh⟩
  · rw [if_neg hh] at hk
    exact h k h' hk

theorem looked_dialed (h : n.Shows f) {hd : Center.Handle} (hc : n.centers.get? host = some hd) :
    Looked f (fun s : Session => s.host = host) (n.dialed host hd) := by
  have hh := (h.proper host hd hc).1
  unfold dialed
  rw [Fleet.run_connect, hh]
  cases hp : n.planes.get? host with
  | none => exact .of_error ⟨h.proper, h.alike⟩ ⟨rfl, nofun⟩
  | some p =>
    have ha : Fleet.Alike (n.planes.put host (p.connect host).2) f := h.alike.put hp rfl
    dsimp only
    cases hf : (p.connect host).1 with
    | ok u => exact .of_ok ⟨h.proper.put hh (s := ⟨host, 0⟩) rfl _, ha⟩ rfl
    | error e =>
      refine .of_error (n := { n with planes := n.planes.put host (p.connect host).2 })
        ⟨h.proper, ha⟩ (Plane.isPlain_of_connect hf)

theorem looked_config (h : n.Shows f) (host : String) :
    Looked f (fun _ => True) (((·.config) <$> handle host).run.run n) := by
  rw [run_config]
  cases n.centers.get? host with
  | none => exact .of_error h ⟨rfl, nofun⟩
  | some hd => exact .of_ok h trivial

theorem looked_connect (h : n.Shows f) (host : String) :
    Looked f (fun _ : Unit => True) ((connect host).run.run n) := by
  rw [run_connect]
  cases hc : n.centers.get? host with
  | none => exact .of_error h ⟨rfl, nofun⟩
  | some hd => exact (looked_dialed h hc).map fun _ _ => trivial

theorem looked_client (h : n.Shows f) (host : String) :
    Looked f (fun s : Session => s.host = host) ((client host).run.run n) := by
  rw [run_client]
  cases hc : n.centers.get? host with
  | none => exact .of_error h ⟨rfl, nofun⟩
  | some hd =>
    cases hs : hd.session with
    | none => simpa only [hs] using looked_dialed h hc
    | some s => simpa only [hs] using .of_ok h ((h.proper host hd hc).2 s hs)

theorem shows_start (h : n.Shows f) (s : Session) (q : Request) :
    ((start s q).run n).2.Shows f := by
  refine ⟨h.proper, ?_⟩
  show Fleet.Alike ((Remote.start s q).run n.planes).2 f
  rw [Fleet.run_start]
  cases hp : n.planes.get? s.host with
  | none => exact h.alike
  | some p => exact h.alike.put hp (p.still_start q)

theorem shows_await (h : n.Shows f) (due : Nat) : ((await due).run n).2.Shows f :=
  ⟨h.proper, h.alike⟩

theorem looked_finish {q : Request} (h : n.Shows f) (s : Session) {P : q.Reply → Prop}
    (hq : ∀ p : Plane, (p.finish q).2.still = p.still)
    (ok : ∀ p a, n.planes.get? s.host = some p → (p.finish q).1 = .ok a → P a) :
    Looked f P ((finish s q).run.run n) := by
  show Looked f P (((Fleet.actAt s.host fun p => p.finish q).run.run n.planes).1,
    { n with planes := ((Fleet.actAt s.host fun p => p.finish q).run.run n.planes).2 })
  rw [Fleet.run_actAt]
  cases hp : n.planes.get? s.host with
  | none => exact .of_error h ⟨rfl, nofun⟩
  | some p =>
    exact ⟨⟨h.proper, h.alike.put hp (hq p)⟩, fun a => ok p a hp, fun _ => Plane.isPlain_of_finish⟩

theorem looked_datacenters (h : n.Shows f) (c : Center.Config) :
    Looked f (fun ds => ds = f.offered c) ((datacenters c).run.run n) := by
  rw [run_datacenters]
  have hl := looked_client h c.host
  cases hc : (client c.host).run.run n with
  | mk r m =>
    rw [hc] at hl
    cases r with
    | error e => exact .of_error hl.shows (hl.error e rfl)
    | ok s =>
      have hs := shows_start hl.shows s .datacenters
      have hw := shows_await hs ((start s .datacenters).run m).1
      have ha : Looked f (fun all => select c all = f.offered c)
          ((ask s .datacenters).run.run m) := by
        refine looked_finish (q := .datacenters) hw s (fun _ => rfl) fun p all hp ha => ?_
        rw [← hw.alike.offered, Fleet.offered, ← hl.ok s rfl, hp]
        exact congrArg (select c) (Plane.answered_datacenters ha).symm
      exact ha.map fun _ => id

theorem looked_machines (h : n.Shows f) (s : Session) (id : String) :
    Looked f (fun ms => ms = f.residents s.host id) ((finish s (.machines id)).run.run n) := by
  refine looked_finish (q := .machines id) h s (fun _ => rfl) fun p ms hp hm => ?_
  rw [← h.alike.residents, Fleet.residents, hp]
  exact (Plane.answered_machines hm).symm

end Network

end StorageDriver
