import StorageDriver.Proofs.Standing
import StorageDriver.Proofs.Tables

namespace StorageDriver

/-- It changes nothing but what is counted. -/
def Request.IsLook : Request → Prop
  | task _ | command _ => False
  | _ => True

namespace Plane

variable {p q : Plane} {r : Request}

theorem connect_of_still (h : p.still = q.still) (host : String) :
    (p.connect host).1 = (q.connect host).1 := by
  have same (p : Plane) : (p.still.connect host).1 = (p.connect host).1 := rfl
  rw [← same, h, same]

theorem start_of_still (h : p.still = q.still) (r : Request) : (p.start r).1 = (q.start r).1 := by
  have same (p : Plane) : (p.still.start r).1 = (p.start r).1 := by cases r <;> rfl
  rw [← same, h, same]

theorem still_finish (hr : r.IsLook) (p : Plane) : (p.finish r).2.still = p.still := by
  cases r with
  | task | command => cases hr
  | _ => rfl

theorem finish_of_still (hr : r.IsLook) (h : p.still = q.still) :
    (p.finish r).1 = (q.finish r).1 := by
  have same (p : Plane) : (p.still.finish r).1 = (p.finish r).1 := by
    cases r with
    | task | command => cases hr
    | _ => rfl
  rw [← same, h, same]

end Plane

namespace Fleet

variable {f g : Fleet}

theorem Alike.cases (h : g.Alike f) (host : String) :
    g.get? host = none ∧ f.get? host = none ∨
      ∃ p q, g.get? host = some p ∧ f.get? host = some q ∧ p.still = q.still := by
  have hs := h host
  cases hg : g.get? host with
  | none =>
    rw [hg] at hs
    exact .inl ⟨rfl, Option.map_eq_none_iff.1 hs.symm⟩
  | some p =>
    rw [hg] at hs
    obtain ⟨q, hq, hp⟩ := Option.map_eq_some_iff.1 hs.symm
    exact .inr ⟨p, q, rfl, hq, hp.symm⟩

def accepts (f : Fleet) (host : String) : Except Error Unit :=
  match f.get? host with
  | none => .error (unreachable host)
  | some p => (p.connect host).1

def greets (f : Fleet) (cs : List Center.Config) (host : String) : Except Error Unit :=
  if host ∈ cs.map (·.host) then f.accepts host else .error (.notRegistered host)

def answers (f : Fleet) (s : Session) (r : Request) : Except Error r.Reply :=
  match f.get? s.host with
  | none => .error (unreachable s.host)
  | some p => (p.finish r).1

/-- The datacenters of `c` that may be searched, if they can be had. -/
def lists (f : Fleet) (cs : List Center.Config) (c : Center.Config) :
    Except Error (List Datacenter) := do
  f.greets cs c.host
  return Network.select c (← f.answers ⟨c.host, 0⟩ .datacenters)

def delay (f : Fleet) (host : String) (r : Request) : Nat :=
  match f.get? host with
  | none => 0
  | some p => (p.start r).1

theorem delay_datacenters (f : Fleet) (host : String) : f.delay host .datacenters = 0 := by
  unfold delay
  split <;> rfl

end Fleet

namespace Network

/-- The centers `cs` stand before the planes `f`, up to what is counted. Only where it can be had
there is a session. -/
structure Stands (cs : List Center.Config) (f : Fleet) (n : Network Fleet) : Prop where
  configs : n.centers.map (·.2.config) = cs
  keyed : ∀ c ∈ n.centers, c.2.config.host = c.1
  met : ∀ c ∈ n.centers, ∀ s, c.2.session = some s → s = ⟨c.1, 0⟩ ∧ f.accepts c.1 = .ok ()
  alike : n.planes.Alike f

/-- A call in `n` that answered `r`, took no time and left everything standing. -/
structure Tells {α : Type} (cs : List Center.Config) (f : Fleet) (n : Network Fleet)
    (r : Except Error α) (x : Except Error α × Network Fleet) : Prop where
  answer : x.1 = r
  stands : x.2.Stands cs f
  clock : x.2.clock = n.clock

variable {cs : List Center.Config} {f : Fleet} {n : Network Fleet} {host : String}

theorem Tells.map {α β : Type} {r : Except Error α} {x : Except Error α × Network Fleet}
    (h : Tells cs f n r x) (g : α → β) : Tells cs f n (r.map g) (x.1.map g, x.2) :=
  ⟨congrArg (Except.map g) h.answer, h.stands, h.clock⟩

namespace Stands

theorem wait (h : n.Stands cs f) (time : Nat) : { n with clock := time }.Stands cs f :=
  ⟨h.configs, h.keyed, h.met, h.alike⟩

theorem register (h : n.Stands cs f) (c : Center.Config) :
    (n.register c).Stands ((n.register c).centers.map (·.2.config)) f := by
  unfold Network.register
  split
  · exact { h with configs := rfl }
  · refine ⟨rfl, fun k hk => ?_, fun k hk => ?_, h.alike⟩
    · obtain rfl | hk := Table.mem_put hk
      · rfl
      · exact h.keyed k hk
    · obtain rfl | hk := Table.mem_put hk
      · exact fun _ hs => nomatch hs
      · exact h.met k hk

theorem planes (h : n.Stands cs f) {p q : Plane} (hp : n.planes.get? host = some p)
    (hq : q.still = p.still) : { n with planes := n.planes.put host q }.Stands cs f :=
  ⟨h.configs, h.keyed, h.met, h.alike.put hp hq⟩

theorem session (h : n.Stands cs f) {hd : Center.Handle} (hc : n.centers.get? host = some hd)
    (ha : f.accepts host = .ok ()) :
    { n with centers := n.centers.put host { hd with session := some ⟨host, 0⟩ } }.Stands cs f where
  configs := by
    rw [← h.configs]
    exact Table.map_put_of_get? (g := Center.Handle.config)
      (a := { hd with session := some ⟨host, 0⟩ }) hc rfl
  keyed c hm := by
    obtain rfl | hm := Table.mem_put hm
    · exact h.keyed (host, hd) (Table.mem_of_get? hc)
    · exact h.keyed c hm
  met c hm := by
    obtain rfl | hm := Table.mem_put hm
    · exact fun s hs => ⟨(Option.some.inj hs).symm, ha⟩
    · exact h.met c hm
  alike := h.alike

theorem greets (h : n.Stands cs f) (host : String) :
    f.greets cs host = match n.centers.get? host with
      | some _ => f.accepts host
      | none => .error (.notRegistered host) := by
  have hosts : cs.map (·.host) = n.centers.map (·.1) := by
    rw [← h.configs, List.map_map]
    exact List.map_congr_left h.keyed
  rw [Fleet.greets, hosts]
  cases hc : n.centers.get? host with
  | none => exact if_neg (Table.get?_eq_none.1 hc)
  | some hd => exact if_pos (Table.mem_keys.2 (by rw [hc]; rfl))

theorem dialed (h : n.Stands cs f) {hd : Center.Handle} (hc : n.centers.get? host = some hd) :
    Tells cs f n ((f.accepts host).map fun _ => ⟨host, 0⟩) (n.dialed host hd) := by
  unfold Network.dialed
  rw [Fleet.run_connect, h.keyed _ (Table.mem_of_get? hc), Fleet.accepts]
  obtain ⟨hg, hf⟩ | ⟨p, q, hg, hf, hs⟩ := h.alike.cases host
  · rw [hg, hf]
    exact ⟨rfl, h, rfl⟩
  · have accepts : f.accepts host = (p.connect host).1 := by
      rw [Fleet.accepts, hf]
      exact (Plane.connect_of_still hs host).symm
    have hn := h.planes hg (q := (p.connect host).2) rfl
    rw [hg, hf]
    dsimp only
    rw [← Plane.connect_of_still hs host]
    cases hr : (p.connect host).1 with
    | error e => exact ⟨rfl, hn, rfl⟩
    | ok u => exact ⟨rfl, hn.session hc (accepts.trans hr), rfl⟩

theorem connect (h : n.Stands cs f) (host : String) :
    Tells cs f n (f.greets cs host) ((Network.connect host).run.run n) := by
  rw [run_connect, h.greets]
  cases hc : n.centers.get? host with
  | none => exact ⟨rfl, h, rfl⟩
  | some hd =>
    have hd := (h.dialed hc).map fun _ => ()
    rwa [show Except.map (fun _ => ()) (Except.map _ (f.accepts host)) = f.accepts host by
      cases f.accepts host <;> rfl] at hd

theorem client (h : n.Stands cs f) (host : String) :
    Tells cs f n ((f.greets cs host).map fun _ => ⟨host, 0⟩)
      ((Network.client host).run.run n) := by
  rw [run_client, h.greets]
  cases hc : n.centers.get? host with
  | none => exact ⟨rfl, h, rfl⟩
  | some hd =>
    dsimp only
    cases hs : hd.session with
    | none => exact h.dialed hc
    | some s =>
      obtain ⟨rfl, ha⟩ := h.met _ (Table.mem_of_get? hc) s hs
      rw [ha]
      exact ⟨rfl, h, rfl⟩

theorem start (h : n.Stands cs f) (s : Session) (r : Request) :
    ((Network.start s r).run n).1 = n.clock + f.delay s.host r ∧
      ((Network.start s r).run n).2.Stands cs f ∧
      ((Network.start s r).run n).2.clock = n.clock := by
  have started : (Network.start s r).run n = (n.clock + ((Remote.start s r).run n.planes).1,
    { n with planes := ((Remote.start s r).run n.planes).2 }) := rfl
  rw [started, Fleet.run_start, Fleet.delay]
  obtain ⟨hg, hf⟩ | ⟨p, q, hg, hf, hs⟩ := h.alike.cases s.host
  · rw [hg, hf]
    exact ⟨rfl, h, rfl⟩
  · rw [hg, hf]
    refine ⟨?_, h.planes hg (p.still_start r), rfl⟩
    exact congrArg (n.clock + ·) (Plane.start_of_still hs r)

theorem finish {r : Request} (hr : r.IsLook) (h : n.Stands cs f) (s : Session) :
    Tells cs f n (f.answers s r) ((Network.finish s r).run.run n) := by
  have finished : (Network.finish s r).run.run n =
      (((Fleet.actAt s.host fun p => p.finish r).run.run n.planes).1,
        { n with planes := ((Fleet.actAt s.host fun p => p.finish r).run.run n.planes).2 }) := rfl
  rw [finished, Fleet.run_actAt, Fleet.answers]
  obtain ⟨hg, hf⟩ | ⟨p, q, hg, hf, hs⟩ := h.alike.cases s.host
  · rw [hg, hf]
    exact ⟨rfl, h, rfl⟩
  · rw [hg, hf]
    exact ⟨Plane.finish_of_still hr hs, h.planes hg (Plane.still_finish hr p), rfl⟩

theorem ask {r : Request} (hr : r.IsLook) (h : n.Stands cs f) (s : Session) :
    Tells cs f { n with clock := n.clock + f.delay s.host r } (f.answers s r)
      ((Network.ask s r).run.run n) := by
  obtain ⟨due, hs, hc⟩ := h.start s r
  have asked : (Network.ask s r).run.run n = (Network.finish s r).run.run
    { ((Network.start s r).run n).2 with
      clock := max ((Network.start s r).run n).2.clock ((Network.start s r).run n).1 } := rfl
  rw [asked, hc, due, Nat.max_eq_right (Nat.le_add_right ..)]
  exact { (hs.wait _).finish hr s with clock := ((hs.wait _).finish hr s).clock }

end Stands

theorem Stands.datacenters (h : n.Stands cs f) (c : Center.Config) :
    Tells cs f n (f.lists cs c) ((Network.datacenters c).run.run n) := by
  rw [run_datacenters]
  obtain ⟨answer, stands, clock⟩ := h.client c.host
  generalize (Network.client c.host).run.run n = x at answer stands clock
  obtain ⟨r, m⟩ := x
  obtain rfl : r = _ := answer
  rw [Fleet.lists]
  cases f.greets cs c.host with
  | error e => exact ⟨rfl, stands, clock⟩
  | ok u =>
    have asked := (stands.ask (r := .datacenters) trivial ⟨c.host, 0⟩).map (select c)
    refine ⟨asked.answer.trans ?_, asked.stands, asked.clock.trans ?_⟩
    · cases f.answers ⟨c.host, 0⟩ .datacenters <;> rfl
    · exact (congrArg (m.clock + ·) (f.delay_datacenters c.host)).trans clock

end Network

end StorageDriver
