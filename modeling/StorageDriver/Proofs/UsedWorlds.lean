import StorageDriver.Proofs.Histories
import StorageDriver.Proofs.NodeCache
import StorageDriver.Proofs.Resolutions
import StorageDriver.Search.Listing

namespace StorageDriver

namespace World

inductive Used (hosts : List String) : World Fleet → Prop
  | start :
    Used hosts { net := { planes := .ofPlanes (hosts.map fun host => { host := host }) } }
  | register {w} (c : Center.Config) (h : Used hosts w) :
    Used hosts { w with net := w.net.register c }
  | unregister {w} (host : String) (h : Used hosts w) :
    Used hosts { w with net := ((Network.unregister host).run.run w.net).2 }
  | setUp {w} (host : String) (x : Plane.Setup) (h : Used hosts w) :
    Used hosts { w with net := { w.net with planes := w.net.planes.setUp host x } }
  | search {w} {pool : Nat} {spent : Bool} {q : Query} {ms : List (Nat × Search.Move)}
      {t : Search.State Fleet} {es : List Search.Event}
      (hf : (Search.start q pool spent w.net).follow ms = some (t, es)) (h : Used hosts w) :
    Used hosts { w with net := t.net }
  | list {w} (room : Nat) (wanted : Option Nat) (cancelled : Bool) (h : Used hosts w) :
    Used hosts { w with net := (w.net.listing room wanted cancelled).net }
  | remote {w} {α : Type} {env : Setting} {p : Attempt α} {r : Except Error α} {w' : World Fleet}
      (hp : p.run.All Action.IsRemote) (hr : p.Runs env w r w') (h : Used hosts w) : Used hosts w'
  | call {w} {env : Setting} {v : Volumes} {o : Csi.Operation} {r : Except Error o.Answer}
      {w' : World Fleet} (hr : (o.attempt v).Runs env w r w') (h : Used hosts w) : Used hosts w'
  | meet {w} {env : Setting} {d : Node.Demand} {r : Except Error d.Answer} {w' : World Fleet}
      (hr : d.attempt.Runs env w r w') (h : Used hosts w) : Used hosts w'

variable {env : Setting} {w w' : World Fleet} {hosts : List String}

theorem Performs.holds {a : Action} {x : a.Answer} (hx : w.Performs env a x w')
    (h : w.net.planes.Holds hosts fun _ => True) : w'.net.planes.Holds hosts fun _ => True := by
  have enquiry (ha : a.IsEnquiry) : w'.net.planes.Holds hosts fun _ => True :=
    h.of_estates ((Fleet.lasting_estates w.net.planes).performs ha hx rfl)
  cases a with
  | ask s q =>
    cases q with
    | command c =>
      obtain ⟨-, rfl⟩ := Prod.mk.inj (hx.direct trivial)
      show ((Network.ask s (.command c)).run.run w.net).2.planes.Holds hosts fun _ => True
      cases hp : w.net.planes.get? s.host with
      | none =>
        rw [(Network.run_ask_none hp).2]
        exact h
      | some p =>
        obtain ⟨hh, hp'⟩ := h s.host p hp
        rw [(Network.run_ask_some hp).2, Table.put_put]
        exact h.put hh (hp'.obey fun _ _ => trivial)
    | _ => exact enquiry trivial
  | _ => exact enquiry trivial

theorem holds_run {α : Type} {p : Proc α} {r : α} (h : w.net.planes.Holds hosts fun _ => True)
    (hr : p.Runs env w r w') : w'.net.planes.Holds hosts fun _ => True := by
  induction hr with
  | done a w => exact h
  | act hx _ ih => exact ih (hx.holds h)

end World

section

variable {R : Type} [Remote R] {P : Network R → Prop}
  (connect : ∀ n host, P n → P ((Network.connect host).run.run n).2)
  (datacenters : ∀ n c, P n → P ((Network.datacenters c).run.run n).2)
include connect datacenters

theorem Stream.keeps {cancelled : Bool} {s t : Stream} {n m : Network R} (hn : P n)
    (h : s.step cancelled n = some (t, m)) : P m := by
  have stays {u : Stream} (h : some (u, n) = some (t, m)) : P m :=
    (Prod.mk.inj (Option.some.inj h)).2 ▸ hn
  unfold step at h
  split at h
  · exact stays h
  · rename_i c cs _
    have hc := connect n c.host hn
    split at h
    · exact stays h
    · split at h <;>
      · rename_i hx
        rw [hx] at hc
        exact (Prod.mk.inj (Option.some.inj h)).2 ▸ hc
  · rename_i c cs _
    have hd := datacenters n c hn
    split at h
    · exact stays h
    · split at h <;>
      · rename_i hx
        rw [hx] at hd
        exact (Prod.mk.inj (Option.some.inj h)).2 ▸ hd
  · exact stays h
  · split at h
    · exact stays h
    · split at h
      · exact stays h
      · split at h
        · exact stays h
        · cases h
  · cases h

theorem Listing.keeps (cancelled : Bool) (l : Listing R) (hl : P l.net) :
    P (l.run cancelled).net := by
  have leave (l : Listing R) : l.leave.net = l.net := by
    unfold Listing.leave
    split <;> rfl
  fun_induction Listing.run cancelled l with
  | case1 l h => exact hl
  | case2 l m h ih =>
    refine ih ?_
    unfold Listing.step at h
    split at h
    · obtain rfl := Option.some.inj h
      rwa [leave]
    · obtain ⟨⟨s, n⟩, hs, rfl⟩ := Option.map_eq_some_iff.1 h
      exact Stream.keeps connect datacenters hl hs

theorem Network.keeps_listing (room : Nat) (wanted : Option Nat) (cancelled : Bool) {n : Network R}
    (hn : P n) : P (n.listing room wanted cancelled).net := by
  refine Listing.keeps connect datacenters cancelled _ ?_
  unfold Listing.leave
  split <;> exact hn

end

namespace Csi.Operation

variable {env : Setting} {w w' : World Fleet}

theorem sound_plan {o : Operation} {x : Except Error (Plan o.Answer)} (hw : w.nodes.Sound)
    (h : o.plan.Runs env w x w') : w'.nodes.Sound := by
  have remote {α : Type} {p : Attempt α} {x : Except Error α} (hp : p.run.All Action.IsRemote)
      (h : p.Runs env w x w') : w'.nodes.Sound :=
    Eq.mpr (congrArg Nodes.Sound (Proc.Runs.nodes h hp)) hw
  have need (what text : String) : (need what text).run.All Action.IsRemote := by
    unfold Csi.need
    split <;> exact trivial
  have found {α : Type} {id node : String} {f : VirtualMachine → α} {x : Except Error α}
      (h : (onMachine id node fun m => pure (f m)).Runs env w x w') : w'.nodes.Sound := by
    obtain ⟨-, rfl⟩ | ⟨e, -, hm⟩ | ⟨m, u, hm, hx⟩ := runs_onMachine h
    · exact hw
    · exact Node.Demand.sound (d := .machineOf node) hw hm
    · cases hx
      exact Node.Demand.sound (d := .machineOf node) hw hm
  cases o with
  | create r =>
    refine remote (Attempt.all_bind (need _ _) fun _ => ?_) h
    split <;> exact trivial
  | delete id | expand id bytes capability =>
    refine remote (Attempt.all_bind (need _ _) fun _ => ?_) h
    trivial
  | publish id node | unpublish id node => exact found h

theorem sound_attempt {v : Volumes} {o : Operation} {r : Except Error o.Answer}
    (hw : w.nodes.Sound) (h : (o.attempt v).Runs env w r w') : w'.nodes.Sound := by
  rw [attempt_plan] at h
  obtain ⟨p, u, hp, h⟩ | ⟨e, hp, -⟩ := h.of_bind
  · have hu : u.nodes.Sound := sound_plan hw hp
    have worked {x : Except Error p.work.Answer} {u' : World Fleet}
        (ha : (p.work.attempt v).Runs env u x u') : u'.nodes.Sound :=
      Eq.mpr (congrArg Nodes.Sound (Proc.Runs.nodes ha (p.work.remote_attempt v))) hu
    obtain ⟨a, u', ha, h⟩ | ⟨e, ha, -⟩ := h.of_bind
    · cases h
      exact worked ha
    · exact worked ha
  · exact sound_plan hw hp

end Csi.Operation

namespace World.Used

variable {hosts : List String} {w : World Fleet}

/-- Centers are kept under their hosts, planes number their machines, and machines are kept under
their UUIDs. -/
theorem holds (h : w.Used hosts) :
    w.net.Proper ∧ (w.net.planes.Holds hosts fun _ => True) ∧ w.nodes.Sound := by
  have ran {w w' : World Fleet} {α : Type} {env : Setting} {p : Attempt α} {r : Except Error α}
      (hr : p.Runs env w r w') (hw : w.net.Proper) (hh : w.net.planes.Holds hosts fun _ => True) :
      w'.net.Proper ∧ w'.net.planes.Holds hosts fun _ => True :=
    ⟨(proper_of_runs ⟨hw, hh.numbered⟩ hr).net, holds_run hh hr⟩
  induction h with
  | start =>
    have hp : ∀ p ∈ hosts.map fun host => ({ host := host } : Plane),
        p.host ∈ hosts ∧ p.Holds fun _ => True := by
      intro p hp
      obtain ⟨host, hh, rfl⟩ := List.mem_map.1 hp
      exact ⟨hh, Plane.numbers_of_nil rfl, nofun⟩
    exact ⟨Network.proper_of_planes _, Fleet.holds_ofPlanes hp,
      (Node.Reachable.start _ : Node.Reachable (fun _ => True) _).sound⟩
  | register c _ ih => exact ⟨ih.1.register c, (Network.planes_register _ c).symm ▸ ih.2.1, ih.2.2⟩
  | unregister host _ ih =>
    exact ⟨ih.1.unregister host, (Network.planes_unregister _ host).symm ▸ ih.2.1, ih.2.2⟩
  | setUp host x _ ih =>
    obtain ⟨hw, hh, hn⟩ := ih
    exact ⟨hw, hh.setUp trivial host x, hn⟩
  | @search w pool spent q ms t es hf _ ih =>
    obtain ⟨hw, hh, hn⟩ := ih
    have lasting := Fleet.lasting_estates w.net.planes
    exact ⟨(Search.seeing_follow hw hf).shows.proper,
      hh.of_estates (lasting.follow (s := Search.start q pool spent w.net) rfl hf), hn⟩
  | @list w room wanted cancelled _ ih =>
    obtain ⟨hw, hh, hn⟩ := ih
    have lasting := Fleet.lasting_estates w.net.planes
    have proper : (w.net.listing room wanted cancelled).net.Proper :=
      Network.keeps_listing (P := Network.Proper)
        (fun n host hp => (Network.looked_connect ⟨hp, fun _ => rfl⟩ host).shows.proper)
        (fun n c hp => (Network.looked_datacenters ⟨hp, fun _ => rfl⟩ c).shows.proper) room wanted
        cancelled hw
    have owns : (w.net.listing room wanted cancelled).net.planes.estates = w.net.planes.estates :=
      Network.keeps_listing (P := fun n => Fleet.estates n.planes = w.net.planes.estates)
        (fun _ host hp => lasting.dial host hp) (fun _ c hp => lasting.datacenters c hp) room wanted
        cancelled rfl
    exact ⟨proper, hh.of_estates owns, hn⟩
  | remote hp hr _ ih =>
    obtain ⟨hw, hh, hn⟩ := ih
    obtain ⟨hw', hh'⟩ := ran hr hw hh
    exact ⟨hw', hh', Eq.mpr (congrArg Nodes.Sound (Proc.Runs.nodes hr hp)) hn⟩
  | call hr _ ih =>
    obtain ⟨hw, hh, hn⟩ := ih
    obtain ⟨hw', hh'⟩ := ran hr hw hh
    exact ⟨hw', hh', Csi.Operation.sound_attempt hn hr⟩
  | meet hr _ ih =>
    obtain ⟨hw, hh, hn⟩ := ih
    obtain ⟨hw', hh'⟩ := ran hr hw hh
    exact ⟨hw', hh', Node.Demand.sound hn hr⟩

theorem proper (h : w.Used hosts) : w.Proper := by
  obtain ⟨hw, hh, -⟩ := h.holds
  exact ⟨hw, hh.numbered⟩

theorem sound (h : w.Used hosts) : w.nodes.Sound := h.holds.2.2

end World.Used

end StorageDriver
