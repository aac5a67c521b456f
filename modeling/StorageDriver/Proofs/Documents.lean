import StorageDriver.Proofs.PlaneMachines
import StorageDriver.Proofs.Runs
import StorageDriver.Proofs.SearchOutcome

namespace StorageDriver

def Action.puts? : Action → Option (String × VmInfo)
  | .ask s q => q.puts?.map (s.host, ·)
  | _ => none

namespace Network

variable {n : Network Fleet} {s : Session} {q : Request}

theorem run_ask (s : Session) (q : Request) (n : Network Fleet) :
    (((ask s q).run.run n).1, ((ask s q).run.run n).2.planes) =
      (Fleet.actAt s.host fun p => p.finish q).run.run ((Remote.start s q).run n.planes).2 :=
  rfl

theorem run_ask_none (h : n.planes.get? s.host = none) :
    ((ask s q).run.run n).1 = .error (Fleet.unreachable s.host) ∧
      ((ask s q).run.run n).2.planes = n.planes := by
  have hr := run_ask s q n
  rw [Fleet.run_start, h, Fleet.run_actAt, h] at hr
  exact ⟨congrArg Prod.fst hr, congrArg Prod.snd hr⟩

theorem run_ask_some {p : Plane} (h : n.planes.get? s.host = some p) :
    ((ask s q).run.run n).1 = ((p.start q).2.finish q).1 ∧
      ((ask s q).run.run n).2.planes =
        Table.put (n.planes.put s.host (p.start q).2) s.host ((p.start q).2.finish q).2 := by
  have hr := run_ask s q n
  rw [Fleet.run_start, h, Fleet.run_actAt, Table.get?_put, if_pos rfl] at hr
  exact ⟨congrArg Prod.fst hr, congrArg Prod.snd hr⟩

theorem ask_other (h : q.puts? = none) :
    ((ask s q).run.run n).2.planes.machines? = n.planes.machines? := by
  cases hp : n.planes.get? s.host with
  | none => rw [(run_ask_none (q := q) hp).2]
  | some p =>
    rw [(run_ask_some (q := q) hp).2, Fleet.machines?_put_of_eq (p := (p.start q).2) (by simp)
      (Plane.machines_finish h), Fleet.machines?_put_of_eq hp (p.machines_start q)]

theorem ask_put (doc : VmInfo) (host : String) :
    ((ask s (.command (.putMachine doc))).run.run n).2.planes.machines? host =
      if s.host = host then (n.planes.machines? host).map (Plane.stored doc)
      else n.planes.machines? host := by
  cases hp : n.planes.get? s.host with
  | none =>
    rw [(run_ask_none hp).2]
    split
    · rename_i hh
      rw [Fleet.machines?, ← hh, hp]
      rfl
    · rfl
  | some p =>
    rw [(run_ask_some hp).2, Fleet.machines?_put]
    split
    · rename_i hh
      rw [Fleet.machines?, ← hh, hp]
      exact congrArg some (Plane.machines_put doc)
    · rename_i hh
      rw [Fleet.machines?_put, if_neg hh]

theorem ask_ok {a : q.Reply} (h : ((ask s q).run.run n).1 = .ok a) :
    ∃ p : Plane, n.planes.machines? s.host = some p.machines ∧ (p.finish q).1 = .ok a := by
  cases hp : n.planes.get? s.host with
  | none =>
    rw [(run_ask_none (q := q) hp).1] at h
    cases h
  | some p =>
    rw [(run_ask_some (q := q) hp).1] at h
    refine ⟨(p.start q).2, ?_, h⟩
    rw [p.machines_start q, Fleet.machines?, hp, Option.map_some]

theorem ask_refused {doc : VmInfo} {e : Error}
    (h : ((ask s (.command (.putMachine doc))).run.run n).1 = .error e) :
    ((ask s (.command (.putMachine doc))).run.run n).2.planes.machines? = n.planes.machines? := by
  funext host
  rw [ask_put]
  split
  · rename_i hs
    subst hs
    cases hp : n.planes.get? s.host with
    | none => rw [Fleet.machines?, hp, Option.map_none, Option.map_none]
    | some p =>
      rw [(run_ask_some hp).1] at h
      rw [Fleet.machines?, hp, Option.map_some, Option.map_some]
      exact congrArg some (Plane.stored_of_not_any (Plane.not_any_of_put h))
  · rfl

end Network

namespace World

/-- The document that the plane of `host` has of a machine. -/
def document (w : World Fleet) (host id : String) : Option VmInfo :=
  w.net.planes.document host id

theorem document_of_machines {w w' : World Fleet}
    (h : w'.net.planes.machines? = w.net.planes.machines?) : w'.document = w.document := by
  funext host id
  unfold document Fleet.document
  rw [h]

/-- Centers are kept under their hosts, and no plane has two machines of one id. -/
structure Proper (w : World Fleet) : Prop where
  net : w.net.Proper
  numbered : w.net.planes.Numbered

theorem proper_of_planes {planes : List Plane} (h : ∀ p ∈ planes, p.Numbers) (nodes : Nodes) :
    Proper { net := { planes := .ofPlanes planes }, nodes := nodes } :=
  ⟨Network.proper_of_planes _, Fleet.numbered_ofPlanes h⟩

theorem Proper.register {w : World Fleet} (hw : w.Proper) (c : Center.Config) :
    Proper { w with net := w.net.register c } := by
  refine ⟨hw.net.register c, ?_⟩
  have hp : (w.net.register c).planes = w.net.planes := by
    unfold Network.register
    split <;> rfl
  show Fleet.Numbered (w.net.register c).planes
  rw [hp]
  exact hw.numbered

variable {s : Setting} {a : Action} {x : a.Answer} {w u : World Fleet}

theorem Performs.other (h : w.Performs s a x u) (hw : w.Proper) (ha : a.puts? = none) :
    u.Proper ∧ u.net.planes.machines? = w.net.planes.machines? := by
  have hs : w.net.Shows w.net.planes := ⟨hw.net, fun _ => rfl⟩
  have looked {n : Network Fleet} (hn : n.Shows w.net.planes) :
      World.Proper { w with net := n } ∧ n.planes.machines? = w.net.planes.machines? :=
    ⟨⟨hn.proper, hw.numbered.of_eq hn.alike.machines?⟩, hn.alike.machines?⟩
  cases a with
  | search q =>
    obtain ⟨-, -, rfl⟩ | ⟨-, ms, t, es, hf, -, rfl⟩ := h.searched
    · exact ⟨hw, rfl⟩
    · exact looked (Search.seeing_follow hw.net hf).shows
  | center host =>
    obtain ⟨-, rfl⟩ := Prod.mk.inj (h.direct trivial)
    exact looked (Network.looked_config hs host).shows
  | connect host =>
    obtain ⟨-, rfl⟩ := Prod.mk.inj (h.direct trivial)
    exact looked (Network.looked_connect hs host).shows
  | client host =>
    obtain ⟨-, rfl⟩ := Prod.mk.inj (h.direct trivial)
    exact looked (Network.looked_client hs host).shows
  | ask session q =>
    obtain ⟨-, rfl⟩ := Prod.mk.inj (h.direct trivial)
    have hq : q.puts? = none := Option.map_eq_none_iff.1 ha
    have same := Network.ask_other (n := w.net) (s := session) hq
    exact ⟨⟨hw.net, hw.numbered.of_eq same⟩, same⟩
  | sleep ms | clusterUuid node | nodes op =>
    obtain ⟨-, rfl⟩ := Prod.mk.inj (h.direct trivial)
    exact ⟨⟨hw.net, hw.numbered⟩, rfl⟩

section

variable {session : Session} {doc : VmInfo}

theorem perform_put (session : Session) (doc : VmInfo) (host : String) :
    (perform s (.ask session (.command (.putMachine doc))) w).2.net.planes.machines? host =
      if session.host = host then (w.net.planes.machines? host).map (Plane.stored doc)
      else w.net.planes.machines? host :=
  Network.ask_put doc host

theorem proper_put (hw : w.Proper) (session : Session) (doc : VmInfo) :
    (perform s (.ask session (.command (.putMachine doc))) w).2.Proper := by
  refine ⟨hw.net, fun host ms hm => ?_⟩
  rw [perform_put] at hm
  split at hm
  · obtain ⟨ms, hms, rfl⟩ := Option.map_eq_some_iff.1 hm
    rw [Plane.ids_stored]
    exact hw.numbered host ms hms
  · exact hw.numbered host ms hm

theorem document_put_of_ne {host id : String} (h : ¬ (host = session.host ∧ id = doc.id)) :
    (perform s (.ask session (.command (.putMachine doc))) w).2.document host id =
      w.document host id := by
  unfold document Fleet.document
  rw [perform_put]
  split
  · rename_i hs
    have hid : id ≠ doc.id := fun hi => h ⟨hs.symm, hi⟩
    cases w.net.planes.machines? host with
    | none => rfl
    | some ms => exact Plane.find_stored_of_ne hid
  · rfl

theorem document_put {t : Task}
    (h : (perform s (.ask session (.command (.putMachine doc))) w).1 = .ok t) :
    (perform s (.ask session (.command (.putMachine doc))) w).2.document session.host doc.id =
      some (Plane.kept doc) := by
  obtain ⟨p, hp, ht⟩ := Network.ask_ok h
  unfold document Fleet.document
  rw [perform_put, if_pos rfl, hp]
  exact Plane.find_stored (Plane.any_of_put ht)

theorem perform_refused {e : Error}
    (h : (perform s (.ask session (.command (.putMachine doc))) w).1 = .error e) :
    (perform s (.ask session (.command (.putMachine doc))) w).2.net.planes.machines? =
      w.net.planes.machines? :=
  Network.ask_refused h

end

end World

def Action.accepted? : (a : Action) → a.Answer → Option VmInfo
  | .ask _ (.command (.putMachine doc)), .ok _ => some doc
  | _, _ => none

/-- What an answer is about. -/
def Action.Fits : (a : Action) → a.Answer → Prop
  | .client host, .ok s => s.host = host
  | .ask _ (.machine id), .ok i => i.id = id
  | .ask _ (.volume id), .ok v => v.id = id
  | _, _ => True

def Action.fetched? : (a : Action) → a.Answer → Option (String × VmInfo)
  | .ask s (.machine _), .ok i => some (s.host, i)
  | .search _, .ok m => some (m.host, m.info)
  | _, _ => none

theorem Action.eq_of_puts {a : Action} {host : String} {doc : VmInfo}
    (h : a.puts? = some (host, doc)) :
    ∃ session : Session, session.host = host ∧ a = .ask session (.command (.putMachine doc)) := by
  cases a with
  | ask session q =>
    obtain ⟨d, hd, he⟩ := Option.map_eq_some_iff.1 h
    obtain ⟨rfl, rfl⟩ := Prod.mk.inj he
    cases q with
    | command c =>
      cases c with
      | putMachine doc =>
        obtain rfl := Option.some.inj hd
        exact ⟨session, rfl, rfl⟩
      | _ => cases hd
    | _ => cases hd
  | _ => cases h

theorem Action.exists_of_accepted {a : Action} {x : a.Answer} {doc : VmInfo}
    (h : a.accepted? x = some doc) : ∃ host, a.puts? = some (host, doc) := by
  unfold accepted? at h
  split at h
  · obtain rfl := Option.some.inj h
    exact ⟨_, rfl⟩
  · cases h

theorem Action.accepted_of_none {a : Action} (h : a.puts? = none) (x : a.Answer) :
    a.accepted? x = none := by
  cases ha : a.accepted? x with
  | none => rfl
  | some doc =>
    obtain ⟨host, hd⟩ := exists_of_accepted ha
    rw [h] at hd
    cases hd

namespace World

namespace Performs

variable {s : Setting} {a : Action} {x : a.Answer} {w u : World Fleet} {host : String} {i : VmInfo}

theorem unaccepted (h : w.Performs s a x u) (hw : w.Proper) (hx : a.accepted? x = none) :
    u.Proper ∧ u.document = w.document := by
  cases ha : a.puts? with
  | none => exact (h.other hw ha).imp_right document_of_machines
  | some p =>
    obtain ⟨session, -, rfl⟩ := Action.eq_of_puts (p.eta ▸ ha)
    have performed := h.direct trivial
    cases x with
    | ok t => cases hx
    | error e =>
      have refused := congrArg Prod.fst performed
      obtain rfl : _ = u := congrArg Prod.snd performed
      exact ⟨proper_put hw session p.2, document_of_machines (perform_refused refused)⟩

theorem accepted (h : w.Performs s a x u) (hw : w.Proper) {doc : VmInfo}
    (hx : a.accepted? x = some doc) :
    u.Proper ∧ ∃ host, a.puts? = some (host, doc) ∧
      u.document host doc.id = some (Plane.kept doc) ∧
      ∀ k id, ¬ (k = host ∧ id = doc.id) → u.document k id = w.document k id := by
  cases ha : a.puts? with
  | none =>
    rw [Action.accepted_of_none ha] at hx
    cases hx
  | some p =>
    obtain ⟨session, hs, rfl⟩ := Action.eq_of_puts (p.eta ▸ ha)
    have performed := h.direct trivial
    cases x with
    | error e => cases hx
    | ok t =>
      obtain rfl : p.2 = doc := Option.some.inj hx
      have answered := congrArg Prod.fst performed
      obtain rfl : _ = u := congrArg Prod.snd performed
      refine ⟨proper_put hw session p.2, session.host, by rw [hs], document_put answered, ?_⟩
      exact fun k id hk => document_put_of_ne hk

theorem proper (h : w.Performs s a x u) (hw : w.Proper) : u.Proper := by
  cases hx : a.accepted? x with
  | none => exact (h.unaccepted hw hx).1
  | some doc => exact (h.accepted hw hx).1

end Performs

variable {s : Setting} {w u : World Fleet}

theorem document_of_ask {session : Session} {id : String} {i : VmInfo}
    (h : (perform s (.ask session (.machine id)) w).1 = .ok i) :
    i.id = id ∧ w.document session.host i.id = some i := by
  obtain ⟨p, hp, hi⟩ := Network.ask_ok h
  have hf := Plane.answered_machine hi
  obtain rfl : i.id = id := by simpa using List.find?_some hf
  refine ⟨rfl, ?_⟩
  unfold document Fleet.document
  rw [hp]
  exact hf

theorem Performs.found {q : Query} {m : VirtualMachine} (h : w.Performs s (.search q) (.ok m) u)
    (hw : w.Proper) : q.hits m.info = true ∧ w.document m.host m.id = some m.info := by
  obtain ⟨-, hx, -⟩ | ⟨-, ms, t, es, hf, hx, -⟩ := h.searched
  · cases hx
  · obtain ⟨c, -, d, -, i, hi, rfl⟩ :=
      Search.exists_of_found hw.net hf (Search.found_of_outcome hx.symm)
    refine ⟨List.find?_some hi, ?_⟩
    have hm := List.mem_of_find?_eq_some hi
    cases hp : w.net.planes.get? d.host with
    | none =>
      rw [Fleet.residents, hp] at hm
      cases hm
    | some p =>
      rw [Fleet.residents_of_get? hp] at hm
      have hh : w.net.planes.machines? d.host = some p.machines := congrArg (Option.map _) hp
      exact Fleet.document_of_mem hw.numbered hh (List.mem_filter.1 hm).1

theorem Performs.fits {a : Action} {x : a.Answer} (h : w.Performs s a x u) (hw : w.Proper) :
    a.Fits x := by
  have hs : w.net.Shows w.net.planes := ⟨hw.net, fun _ => rfl⟩
  cases a with
  | client host =>
    have answered := congrArg Prod.fst (h.direct trivial)
    cases x with
    | error e => trivial
    | ok session => exact (Network.looked_client hs host).ok session answered
  | ask session q =>
    have answered := congrArg Prod.fst (h.direct trivial)
    cases x with
    | error e => cases q <;> trivial
    | ok r =>
      cases q with
      | machine id => exact (document_of_ask answered).1
      | volume id =>
        obtain ⟨p, -, hv⟩ := Network.ask_ok answered
        exact Plane.answered_volume hv
      | _ => trivial
  | _ => trivial

theorem Performs.document_of_fetched {a : Action} {x : a.Answer} (h : w.Performs s a x u)
    (hw : w.Proper) {host : String} {i : VmInfo} (hx : a.fetched? x = some (host, i)) :
    w.document host i.id = some i := by
  cases a with
  | ask session q =>
    cases q with
    | machine id =>
      have answered := congrArg Prod.fst (h.direct trivial)
      cases x with
      | error e => cases hx
      | ok j =>
        obtain ⟨rfl, rfl⟩ := Prod.mk.inj (Option.some.inj hx)
        exact (document_of_ask answered).2
    | _ => cases hx
  | search q =>
    cases x with
    | error e => cases hx
    | ok m =>
      obtain ⟨rfl, rfl⟩ := Prod.mk.inj (Option.some.inj hx)
      exact (h.found hw).2
  | _ => cases hx

end World

end StorageDriver
