import StorageDriver.Proofs.CenterVisits

namespace StorageDriver

namespace Plane

/-- The plane after so many connects and listings of its datacenters, and after it was asked for
the machines of the datacenters `seen`. -/
def served (p : Plane) (connects lists : Nat) (seen : List Datacenter) : Plane :=
  { p with
    calls := { p.calls with
      connects := p.calls.connects + connects
      datacenterLists := p.calls.datacenterLists + lists
      vmLists := p.calls.vmLists + seen.length }
    listed := p.listed ++ seen.map (·.id) }

variable (p : Plane) (connects lists : Nat) (seen : List Datacenter)

theorem served_zero : p.served 0 0 [] = p := by
  simp [served]

theorem connect_served (host : String) :
    (p.served connects lists seen).connect host =
      ((p.connect host).1, p.served (connects + 1) lists seen) := rfl

theorem datacenters_served :
    (p.served connects lists seen).finish .datacenters =
      ((p.finish .datacenters).1, p.served connects (lists + 1) seen) := rfl

theorem start_served (d : Datacenter) :
    ((p.served connects lists seen).start (.machines d.id)).2 =
      p.served connects lists (seen ++ [d]) := by
  simp [served, start, Nat.add_assoc]

theorem machines_served (id : String) :
    (p.served connects lists seen).finish (.machines id) =
      ((p.finish (.machines id)).1, p.served connects lists seen) := rfl

end Plane

namespace Network

/-- The center `c` is registered, and the planes are `f` but for the one of `c`, which is `k`. -/
structure Faces (f : Fleet) (c : Center.Config) (k : Plane) (n : Network Fleet) : Prop where
  proper : n.Proper
  registers : n.Registers [c]
  planes : n.planes = f.put c.host k

def Joined (n : Network Fleet) (host : String) : Prop :=
  ∃ hd s, n.centers.get? host = some hd ∧ hd.session = some s

theorem Joined.of_centers {n n' : Network Fleet} {host : String} (h : n.Joined host)
    (hc : n'.centers = n.centers) : n'.Joined host := by
  unfold Joined
  rwa [hc]

namespace Faces

variable {f : Fleet} {c : Center.Config} {k : Plane} {n n' : Network Fleet} {s : Session}

theorem get? (h : n.Faces f c k) : n.planes.get? c.host = some k := by
  rw [h.planes, Table.get?_put, if_pos rfl]

theorem put (h : n.Faces f c k) (l : Plane) :
    { n with planes := n.planes.put c.host l }.Faces f c l where
  proper := h.proper
  registers := h.registers
  planes := by
    show n.planes.put c.host l = f.put c.host l
    rw [h.planes, Table.put_put]

theorem wait (h : n.Faces f c k) (time : Nat) : { n with clock := time }.Faces f c k := { h with }

theorem connect (h : n.Faces f c k) {r : Except Error Unit}
    (hx : (Network.connect c.host).run.run n = (r, n')) :
    (k.connect c.host).1 = r ∧ n'.Faces f c (k.connect c.host).2 ∧
      (r = .ok () → n'.Joined c.host) := by
  have proper := (looked_connect ⟨h.proper, fun _ => rfl⟩ c.host).shows.proper
  obtain ⟨registers, planes, answer, joined⟩ :=
    h.registers.connect (List.mem_singleton_self c) hx
  rw [hx] at proper
  rw [Fleet.run_connect, h.get?] at planes answer
  dsimp only at planes answer
  refine ⟨?_, ⟨proper, registers, ?_⟩, joined⟩
  · rw [← answer]
    cases (k.connect c.host).1 <;> rfl
  · rw [planes, h.planes, Table.put_put]

theorem datacenters (h : n.Faces f c k) (hj : n.Joined c.host)
    {r : Except Error (List Datacenter)} (hx : (Network.datacenters c).run.run n = (r, n')) :
    (k.finish .datacenters).1.map (select c) = r ∧ n'.Faces f c (k.finish .datacenters).2 ∧
      n'.Joined c.host := by
  have ⟨hd, s, hh, hs⟩ := hj
  have proper := (looked_datacenters ⟨h.proper, fun _ => rfl⟩ c).shows.proper
  obtain ⟨answer, centers, planes⟩ := run_datacenters_of_session h.proper hh hs h.get?
  rw [hx] at proper answer centers planes
  refine ⟨answer.symm, ⟨proper, fun c' hc => ?_, ?_⟩, hj.of_centers centers⟩
  · rw [centers]
    exact h.registers c' hc
  · rw [planes, h.planes, Table.put_put]

theorem client (h : n.Faces f c k) (hj : n.Joined c.host) {r : Except Error Session}
    (hx : (Network.client c.host).run.run n = (r, n')) :
    ∃ s, r = .ok s ∧ s.host = c.host ∧ n' = n := by
  obtain ⟨hd, s, hh, hs⟩ := hj
  rw [run_client, hh] at hx
  simp only [hs] at hx
  obtain ⟨rfl, rfl⟩ := Prod.mk.inj hx
  exact ⟨s, rfl, (h.proper c.host hd hh).2 s hs, rfl⟩

theorem start (h : n.Faces f c k) (hs : s.host = c.host) {q : Request} {due : Nat}
    (hx : (Network.start s q).run n = (due, n')) :
    n'.Faces f c (k.start q).2 ∧ n'.centers = n.centers := by
  have hn : ((Network.start s q).run n).2 =
      { n with planes := ((Remote.start (R := Fleet) s q).run n.planes).2 } := rfl
  rw [Fleet.run_start, hs, h.get?, hx] at hn
  obtain rfl : n' = _ := hn
  exact ⟨h.put _, rfl⟩

theorem finish (h : n.Faces f c k) (hs : s.host = c.host) {q : Request} {r : Except Error q.Reply}
    (hx : (Network.finish s q).run.run n = (r, n')) :
    (k.finish q).1 = r ∧ n'.Faces f c (k.finish q).2 ∧ n'.centers = n.centers := by
  have hn : (Network.finish s q).run.run n =
      (((Fleet.actAt s.host fun p => p.finish q).run.run n.planes).1,
        { n with planes := ((Fleet.actAt s.host fun p => p.finish q).run.run n.planes).2 }) := rfl
  rw [Fleet.run_actAt, hs, h.get?, hx] at hn
  obtain ⟨rfl, rfl⟩ := Prod.mk.inj hn
  exact ⟨rfl, h.put _, rfl⟩

end Faces

end Network

end StorageDriver
