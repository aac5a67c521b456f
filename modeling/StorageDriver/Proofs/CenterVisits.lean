import StorageDriver.Proofs.Documents
import StorageDriver.Proofs.Tables

namespace StorageDriver

namespace Fleet

variable {f g : Fleet} {c : Center.Config} {cs seen : List Center.Config}

def listed (f : Fleet) (c : Center.Config) : Except Error (List Datacenter) :=
  match f.get? c.host with
  | none => .error (unreachable c.host)
  | some p => do
    (p.connect c.host).1
    return Network.select c (← (p.finish .datacenters).1)

def full (f : Fleet) (cs : List Center.Config) : List Datacenter :=
  (cs.takeWhile fun c => (f.listed c).isOk).flatMap f.offered

theorem listed_of_none (h : f.get? c.host = none) : f.listed c = .error (unreachable c.host) := by
  rw [listed, h]

theorem listed_of_some {p : Plane} (h : f.get? c.host = some p) :
    f.listed c = (p.connect c.host).1.bind fun _ =>
      (p.finish .datacenters).1.map (Network.select c) := by
  rw [listed, h]
  dsimp only
  cases (p.connect c.host).1 with
  | error e => rfl
  | ok u => cases (p.finish .datacenters).1 <;> rfl

theorem offered_of_listed {ds : List Datacenter} (h : f.listed c = .ok ds) : ds = f.offered c := by
  cases hp : f.get? c.host with
  | none =>
    rw [listed_of_none hp] at h
    cases h
  | some p =>
    rw [listed_of_some hp] at h
    cases hc : (p.connect c.host).1 with
    | error e =>
      rw [hc] at h
      cases h
    | ok u =>
      cases ha : (p.finish .datacenters).1 with
      | error e =>
        rw [hc, ha] at h
        cases h
      | ok all =>
        rw [hc, ha] at h
        rw [offered, hp, Option.map_some, Option.getD_some, Plane.answered_datacenters ha]
        exact (Except.ok.inj h).symm

theorem isPlain_of_listed {e : Error} (h : f.listed c = .error e) : e.IsPlain := by
  cases hp : f.get? c.host with
  | none =>
    rw [listed_of_none hp] at h
    exact Except.error.inj h ▸ ⟨rfl, nofun⟩
  | some p =>
    rw [listed_of_some hp] at h
    cases hc : (p.connect c.host).1 with
    | error e' =>
      rw [hc] at h
      exact Except.error.inj h ▸ Plane.isPlain_of_connect hc
    | ok u =>
      cases ha : (p.finish .datacenters).1 with
      | error e' =>
        rw [hc, ha] at h
        exact Except.error.inj h ▸ Plane.isPlain_of_finish ha
      | ok all =>
        rw [hc, ha] at h
        cases h

theorem full_append (h : ∀ c ∈ seen, (f.listed c).isOk = true) (cs : List Center.Config) :
    f.full (seen ++ cs) = seen.flatMap f.offered ++ f.full cs := by
  rw [full, List.takeWhile_append_of_pos h, List.flatMap_append, full]

theorem full_of_isOk (h : ∀ c ∈ seen, (f.listed c).isOk = true) :
    f.full seen = seen.flatMap f.offered := by
  have hf := full_append h []
  rwa [List.append_nil, show f.full [] = [] from rfl, List.append_nil] at hf

theorem full_of_error (h : ∀ c ∈ seen, (f.listed c).isOk = true) {e : Error}
    (he : f.listed c = .error e) : f.full (seen ++ c :: cs) = seen.flatMap f.offered := by
  have hc : f.full (c :: cs) = [] := by
    rw [full, List.takeWhile_cons_of_neg (by rw [he]; exact nofun), List.flatMap_nil]
  rw [full_append h, hc, List.append_nil]

/-- The planes `g` come from `f` by turning to the centers `cs` alone and connecting to each of them
once. -/
structure Contacts (f : Fleet) (cs : List Center.Config) (g : Fleet) : Prop where
  once : ∀ c ∈ cs,
    (g.get? c.host).map (·.calls.connects) = (f.get? c.host).map (·.calls.connects + 1)
  alike : g.Alike f
  rest : ∀ host, (∀ c ∈ cs, c.host ≠ host) → g.get? host = f.get? host

theorem contacts_nil (f : Fleet) : f.Contacts [] f := ⟨nofun, fun _ => rfl, fun _ _ => rfl⟩

theorem Contacts.connect (h : f.Contacts seen g) (hc : ∀ d ∈ seen, d.host ≠ c.host) :
    f.Contacts (seen ++ [c]) ((Remote.connect (R := Fleet) c).run.run g).2 := by
  have hg := h.rest c.host hc
  rw [run_connect, hg]
  cases hp : f.get? c.host with
  | none =>
    refine ⟨fun d hd => ?_, h.alike, fun host hh => ?_⟩
    · obtain hd | hd := List.mem_append.1 hd
      · exact h.once d hd
      · obtain rfl := List.mem_singleton.1 hd
        rw [hg, hp]
        rfl
    · exact h.rest host fun d hd => hh d (List.mem_append_left _ hd)
  | some p =>
    have hp' : g.get? c.host = some p := hg.trans hp
    refine ⟨fun d hd => ?_, h.alike.put hp' rfl, fun host hh => ?_⟩
    · rw [Table.get?_put]
      obtain hd | hd := List.mem_append.1 hd
      · rw [if_neg (hc d hd).symm]
        exact h.once d hd
      · obtain rfl := List.mem_singleton.1 hd
        rw [if_pos rfl, hp]
        rfl
    · rw [Table.get?_put, if_neg (hh c (List.mem_append_right _ List.mem_cons_self))]
      exact h.rest host fun d hd => hh d (List.mem_append_left _ hd)

theorem Contacts.put (h : f.Contacts cs g) (hc : c ∈ cs) {p q : Plane}
    (hp : g.get? c.host = some p) (hs : q.still = p.still)
    (hq : q.calls.connects = p.calls.connects) : f.Contacts cs (Table.put g c.host q) where
  once d hd := by
    rw [Table.get?_put]
    split
    · rename_i hh
      rw [← h.once d hd, ← hh, hp, Option.map_some, Option.map_some, hq]
    · exact h.once d hd
  alike := h.alike.put hp hs
  rest host hh := by
    rw [Table.get?_put, if_neg (hh c hc)]
    exact h.rest host hh

end Fleet

namespace Network

variable {n : Network Fleet} {cs : List Center.Config} {c : Center.Config}

def Registers {R : Type} (n : Network R) (cs : List Center.Config) : Prop :=
  ∀ c ∈ cs, (n.centers.get? c.host).map (·.config) = some c

theorem Registers.connect (h : n.Registers cs) (hc : c ∈ cs) {r : Except Error Unit}
    {n' : Network Fleet} (hx : (Network.connect c.host).run.run n = (r, n')) :
    n'.Registers cs ∧ n'.planes = ((Remote.connect (R := Fleet) c).run.run n.planes).2 ∧
      ((Remote.connect (R := Fleet) c).run.run n.planes).1.map (fun _ => ()) = r ∧
      (r = .ok () → ∃ hd s, n'.centers.get? c.host = some hd ∧ hd.session = some s) := by
  obtain ⟨hd, hh, rfl⟩ := Option.map_eq_some_iff.1 (h c hc)
  rw [run_connect, hh] at hx
  dsimp only at hx
  unfold dialed at hx
  cases hr : (Remote.connect (R := Fleet) hd.config).run.run n.planes with
  | mk x planes =>
    rw [hr] at hx
    cases x with
    | error e =>
      obtain ⟨rfl, rfl⟩ := Prod.mk.inj hx
      exact ⟨h, rfl, rfl, nofun⟩
    | ok s =>
      obtain ⟨rfl, rfl⟩ := Prod.mk.inj hx
      refine ⟨fun d hd' => ?_, rfl, rfl, fun _ => ⟨{ hd with session := some s }, s, ?_, rfl⟩⟩
      · rw [Table.get?_put]
        split
        · rename_i hk
          have hd' := h d hd'
          rw [← hk, hh] at hd'
          exact hd'
        · exact h d hd'
      · rw [Table.get?_put, if_pos rfl]

theorem run_datacenters_of_session (hn : n.Proper) {hd : Center.Handle} {s : Session}
    (hh : n.centers.get? c.host = some hd) (hs : hd.session = some s) {p : Plane}
    (hp : n.planes.get? c.host = some p) :
    ((datacenters c).run.run n).1 = (p.finish .datacenters).1.map (select c) ∧
      ((datacenters c).run.run n).2.centers = n.centers ∧
      ((datacenters c).run.run n).2.planes = n.planes.put c.host (p.finish .datacenters).2 := by
  have hc : (client c.host).run.run n = (.ok s, n) := by
    rw [run_client, hh]
    simp only [hs]
  have hsh := (hn c.host hd hh).2 s hs
  obtain ⟨ha, hq⟩ := run_ask_some (s := s) (q := .datacenters) (hsh ▸ hp)
  rw [run_datacenters, hc]
  dsimp only
  rw [ha, hq, Table.put_put, hsh]
  exact ⟨rfl, rfl, rfl⟩

theorem datacenters_of_session (hn : n.Proper) {hd : Center.Handle} {s : Session}
    (hh : n.centers.get? c.host = some hd) (hs : hd.session = some s) {p : Plane}
    (hp : n.planes.get? c.host = some p) :
    ((datacenters c).run.run n).1 = (p.finish .datacenters).1.map (select c) ∧
      ((datacenters c).run.run n).2.centers = n.centers ∧
      ∃ q : Plane, ((datacenters c).run.run n).2.planes = n.planes.put c.host q ∧
        q.still = p.still ∧ q.calls.connects = p.calls.connects :=
  have ⟨answer, centers, planes⟩ := run_datacenters_of_session hn hh hs hp
  ⟨answer, centers, _, planes, rfl, rfl⟩

end Network

end StorageDriver
