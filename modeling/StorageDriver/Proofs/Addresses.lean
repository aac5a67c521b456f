import StorageDriver.Proofs.SessionRenewal
import StorageDriver.Proofs.Targets

namespace StorageDriver

inductive Operation
  | datacenters
  | datacenter
  | machines
  | machine
  | putMachine
  | createVolume
  | deleteVolume
  | volume
  | putVolume
  | volumes
  | task
deriving DecidableEq

namespace Operation

def method : Operation → Http.Method
  | putMachine | putVolume => .put
  | createVolume => .post
  | deleteVolume => .delete
  | _ => .get

/-- The segments of the endpoint, with none where the id stands. -/
def route : Operation → List (Option String)
  | datacenters => [some "datacenters"]
  | datacenter => [some "datacenters", none]
  | machines => [some "datacenters", none, some "vms"]
  | machine | putMachine => [some "vms", none]
  | createVolume => [some "volumes"]
  | deleteVolume => [some "volumes", none, some ""]
  | volume | putVolume => [some "volumes", none]
  | volumes => [some "storages", none, some "volumes"]
  | task => [some "tasks", none]

def segments (o : Operation) (seg : List Char) : List (List Char) :=
  o.route.map (·.elim seg String.toList)

end Operation

namespace Request

def operation : Request → Operation
  | datacenters => .datacenters
  | datacenter _ => .datacenter
  | machines _ => .machines
  | machine _ => .machine
  | volume _ => .volume
  | volumes _ => .volumes
  | task _ => .task
  | command (.putMachine _) => .putMachine
  | command (.createVolume _) => .createVolume
  | command (.deleteVolume _ _) => .deleteVolume
  | command (.putVolume _) => .putVolume

def subject : Request → String
  | datacenter id | machines id | machine id | volume id | volumes id | task id => id
  | command (.putMachine doc) => doc.id
  | command (.deleteVolume id _) => id
  | command (.putVolume doc) => doc.id
  | datacenters | command (.createVolume _) => ""

def query : Request → Option String
  | command (.deleteVolume _ wipe) => some s!"removeData={wipe}"
  | _ => none

end Request

namespace Operation

open Http.Target (Names IsPlain Ends escaped)

variable {o p : Operation} {w : String} {seg seg' id : List Char}

theorem plain_word (h : some w ∈ o.route) :
    IsPlain w.toList ∧ escaped w.toList = w.toList ∧ ∀ c ∈ w.toList.getLast?, ' ' < c := by
  have all : o.route.all (·.all fun w => decide (IsPlain w.toList) &&
      decide (escaped w.toList = w.toList) && w.toList.getLast?.all (' ' < ·)) = true := by
    cases o <;> decide
  have hw := List.all_eq_true.1 all _ h
  simp only [Option.all_some, Bool.and_eq_true, decide_eq_true_eq, Option.all_eq_true] at hw
  exact ⟨hw.1.1, hw.1.2, hw.2⟩

theorem eq_of_segments (hm : o.method = p.method) (h : o.segments seg = p.segments seg') :
    o = p ∧ (none ∈ o.route → seg = seg') := by
  cases o <;> cases p <;> simp_all [segments, route, method]

theorem segments_ne_nil (o : Operation) (seg : List Char) : o.segments seg ≠ [] := by
  cases o <;> exact List.cons_ne_nil _ _

theorem names_segments (h : Names seg id) :
    List.Forall₂ Names (o.segments seg) (o.segments id) := by
  rw [segments, segments, List.forall₂_map_left_iff,
    List.forall₂_map_right_iff, List.forall₂_same]
  intro r hr
  cases r with
  | none => exact h
  | some w =>
    obtain ⟨plain, same, -⟩ := plain_word hr
    have hw := Http.Target.names_escaped plain
    rwa [same] at hw

theorem escaped_segments (o : Operation) (id : List Char) :
    (o.segments id).map escaped = o.segments (escaped id) := by
  rw [segments, segments, List.map_map]
  refine List.map_congr_left fun r hr => ?_
  cases r with
  | none => rfl
  | some w => exact (plain_word hr).2.1

theorem plain_segments (h : IsPlain id) : ∀ s ∈ o.segments id, IsPlain s := by
  intro s hs
  obtain ⟨r, hr, rfl⟩ := List.mem_map.1 hs
  cases r with
  | none => exact h
  | some w => exact (plain_word hr).1

theorem ends_segments :
    Ends (o.segments id) ↔ (o.route.getLast? = some none → ∀ c ∈ id.getLast?, ' ' < c) := by
  rw [Http.Target.ends_iff, segments, List.getLast?_map]
  cases h : o.route.getLast? with
  | none => simp
  | some r =>
    cases r with
    | none => simp
    | some w =>
      have ends := (plain_word (List.mem_of_getLast? h)).2.2
      simpa using ends

end Operation

namespace Request

open Http (Endpoint Target)

variable {q r : Request}

def target (q : Request) : Target := .ofText (Endpoint.ofRequest q).path

def sent (q : Request) : Http.Method × String := ((Endpoint.ofRequest q).method, q.target.render)

/-- The target is made of the segments of the endpoint and of one that stands for the id. -/
def Addressed (q : Request) (t : Target) : Prop :=
  t.query = q.query ∧ ∃ seg, Target.Names seg q.subject.toList ∧
    t.path.toList = (q.operation.segments seg).flatMap ('/' :: ·)

/-- The id can be put into a path as it is. -/
structure IsPlain (q : Request) : Prop where
  plain : Target.IsPlain q.subject.toList
  ends : q.operation.route.getLast? = some none → ∀ c ∈ q.subject.toList.getLast?, ' ' < c

theorem path_eq (q : Request) : (Endpoint.ofRequest q).path =
    Target.written (q.operation.segments q.subject.toList) q.query := by
  refine String.toList_inj.1 ?_
  cases q with
  | command c =>
    cases c <;> simp [Target.written, Target.join, toString, Endpoint.ofRequest, Endpoint.ofCommand,
      operation, subject, query, Operation.segments, Operation.route,
      List.intercalate_cons_cons, List.intercalate_singleton]
  | _ =>
    simp [Target.written, Target.join, toString, Endpoint.ofRequest, Endpoint.get,
      operation, subject, query, Operation.segments, Operation.route,
      List.intercalate_cons_cons, List.intercalate_singleton]

theorem method_eq (q : Request) : (Endpoint.ofRequest q).method = q.operation.method := by
  cases q with
  | command c => cases c <;> rfl
  | _ => rfl

theorem subject_of_none (h : none ∉ q.operation.route) : q.subject = "" := by
  cases q with
  | command c => cases c <;> simp_all [operation, subject, Operation.route]
  | _ => simp_all [operation, subject, Operation.route]

theorem query_of_last (h : q.operation.route.getLast? = some none) : q.query = none := by
  cases q with
  | command c => cases c <;> first | rfl | cases h
  | _ => rfl

theorem kept_query : ∀ x ∈ q.query, ∀ c ∈ x.toList, Target.keptInQuery c = true := by
  intro x hx
  have both : ∀ wipe : Bool, s!"removeData={wipe}".toList.all Target.keptInQuery = true := by
    decide
  cases q with
  | command c =>
    cases c with
    | deleteVolume id wipe =>
      obtain rfl := Option.some.inj hx
      exact List.all_eq_true.1 (both wipe)
    | _ => cases hx
  | _ => cases hx

/-- A request addresses what it is about exactly if the id is plain. -/
theorem addressed_iff (q : Request) :
    q.Addressed q.target ↔ q.IsPlain := by
  have hne := Operation.segments_ne_nil q.operation q.subject.toList
  rw [target, path_eq]
  refine ⟨fun ⟨_, seg, names, path⟩ => ?_, fun h => ?_⟩
  · obtain ⟨plain, ends⟩ := (Target.spells_iff hne kept_query).1
      ⟨q.operation.segments seg, Operation.names_segments names, path⟩
    refine ⟨?_, fun last => Operation.ends_segments.1 (ends (query_of_last last)) last⟩
    by_cases hn : none ∈ q.operation.route
    · exact plain _ (List.mem_map_of_mem hn)
    · rw [subject_of_none hn]
      decide
  · have plain := Operation.plain_segments (o := q.operation) h.plain
    have ends : q.query = none → Target.Ends (q.operation.segments q.subject.toList) :=
      fun _ => Operation.ends_segments.2 h.ends
    refine ⟨Target.query_written kept_query plain ends, Target.escaped q.subject.toList,
      Target.names_escaped h.plain, ?_⟩
    rw [Target.path_written hne kept_query plain ends, Operation.escaped_segments]

theorem eq_of_sent (hq : q.IsPlain) (hr : r.IsPlain) (h : q.sent = r.sent) :
    q.operation = r.operation ∧ q.subject = r.subject := by
  obtain ⟨method, render⟩ := Prod.mk.inj h
  rw [method_eq, method_eq] at method
  have target := Target.eq_of_render (Target.query_not_mem_path _) (Target.query_not_mem_path _)
    render
  obtain ⟨-, seg, names, path⟩ := (addressed_iff q).2 hq
  obtain ⟨-, seg', names', path'⟩ := (addressed_iff r).2 hr
  have segments : q.operation.segments seg = r.operation.segments seg' :=
    Target.eq_of_paths (Target.slashless_of_names (Operation.names_segments names))
      (Target.slashless_of_names (Operation.names_segments names'))
      (path.symm.trans ((congrArg (·.path.toList) target).trans path'))
  obtain ⟨operation, same⟩ := Operation.eq_of_segments method segments
  refine ⟨operation, ?_⟩
  by_cases hn : none ∈ q.operation.route
  · obtain rfl := same hn
    exact String.toList_inj.1 (Target.eq_of_bytes (names.bytes.symm.trans names'.bytes))
  · rw [subject_of_none hn, subject_of_none (operation ▸ hn)]

/-- Two dots lead from the volumes to the machines. -/
theorem sent_detour (id : String) (wipe : Bool) :
    (volume ("../vms/" ++ id)).sent = (machine id).sent ∧
      (command (.deleteVolume ("../vms/" ++ id) wipe)).sent =
        (.delete, (Target.ofText s!"vms/{id}/?removeData={wipe}").render) := by
  have volume : (Endpoint.ofRequest (volume ("../vms/" ++ id))).path = "volumes/../vms/" ++ id :=
    String.toList_inj.1 (by simp [Endpoint.ofRequest, Endpoint.get, toString])
  have machine : (Endpoint.ofRequest (machine id)).path = "vms/" ++ id :=
    String.toList_inj.1 (by simp [Endpoint.ofRequest, Endpoint.get, toString])
  have delete : (Endpoint.ofRequest (command (.deleteVolume ("../vms/" ++ id) wipe))).path =
      "volumes/../vms/" ++ (id ++ s!"/?removeData={wipe}") :=
    String.toList_inj.1 (by simp [Endpoint.ofRequest, Endpoint.ofCommand, toString])
  have direct : s!"vms/{id}/?removeData={wipe}" = "vms/" ++ (id ++ s!"/?removeData={wipe}") :=
    String.toList_inj.1 (by simp [toString])
  refine ⟨?_, ?_⟩
  · rw [sent, sent, target, target, volume, machine, Target.ofText_detour]
    rfl
  · rw [sent, target, delete, direct, Target.ofText_detour]
    rfl

end Request

namespace Http.Client

theorem Served.sent {α : Type} {c c' : Client} {e : Endpoint α} {heard : List Exchange}
    {o : Except Error α} (h : Served c e heard o c') {x : Exchange} (hx : x ∈ heard) :
    x.1 = loginMessage c.config ∨ x.1.method = e.method ∧ x.1.target = .ofText e.path := by
  have hm := h.order.subset (List.mem_map_of_mem hx)
  simp only [List.mem_cons, List.not_mem_nil, or_false] at hm
  obtain hm | hm | hm := hm
  · exact .inr (hm ▸ ⟨rfl, rfl⟩)
  · exact .inl hm
  · exact .inr (hm ▸ ⟨rfl, rfl⟩)

/-- Every message of a client but a login is the request itself. The request is sent to what it is
about exactly if the id is plain, and plain requests that differ are sent apart. A volume of another
id may be a machine. -/
theorem addresses {W : Type} [Transport W] (c : Client) (t : Tapped W) (q r : Request) :
    (∃ heard, ((send (.ofRequest q)).run.run (c, t)).2.2.heard = t.heard ++ heard ∧
      ∀ x ∈ heard, x.1 = loginMessage c.config ∨ (x.1.method, x.1.target.render) = q.sent) ∧
    (q.Addressed q.target ↔ q.IsPlain) ∧
    (q.IsPlain → r.IsPlain → q.operation ≠ r.operation ∨ q.subject ≠ r.subject →
      q.sent ≠ r.sent) ∧
    ∀ (id : String) (wipe : Bool),
      (Request.volume ("../vms/" ++ id)).sent = (Request.machine id).sent ∧
      (Request.command (.deleteVolume ("../vms/" ++ id) wipe)).sent =
        (.delete, (Target.ofText s!"vms/{id}/?removeData={wipe}").render) := by
  refine ⟨?_, q.addressed_iff, fun hq hr differ same => ?_, Request.sent_detour⟩
  · obtain ⟨heard, hh, hs⟩ := send_served (.ofRequest q) c t
    refine ⟨heard, hh, fun x hx => (hs.sent hx).imp_right fun ⟨method, target⟩ => ?_⟩
    rw [method, target]
    rfl
  · obtain ⟨operation, subject⟩ := Request.eq_of_sent hq hr same
    exact differ.elim (· operation) (· subject)

/-- Two requests about one id, and an id that leads from one to the other. -/
theorem addresses_astray :
    let delete := Request.command (.deleteVolume "../vms/vm-1" true)
    let s : Client × Tapped Script := ({ config := center, token := "t1" }, { wire := expiring })
    (Request.volume "vol-7").Addressed (Request.volume "vol-7").target ∧
    (Request.volume "vol-7").sent ≠ (Request.machine "vol-7").sent ∧
    (Request.volume "../vms/vm-1").sent = (Request.machine "vm-1").sent ∧
    ¬ delete.Addressed delete.target ∧
    delete.sent = (.delete, "/vms/vm-1/?removeData=true") ∧
    ((send (.ofRequest delete)).run.run s).2.2.heard.map
      (fun x => (x.1.method, x.1.target.render)) =
      [delete.sent] := by
  intro delete s
  have ends : ∀ c ∈ "vol-7".toList.getLast?, ' ' < c := fun c hc => Option.some.inj hc ▸ by decide
  have volume : (Request.volume "vol-7").IsPlain := ⟨by decide, fun _ => ends⟩
  have machine : (Request.machine "vol-7").IsPlain := ⟨by decide, fun _ => ends⟩
  obtain ⟨-, addressed, distinct, -⟩ := addresses s.1 s.2 (.volume "vol-7") (.machine "vol-7")
  obtain ⟨-, astray, -, detour⟩ := addresses s.1 s.2 delete (.machine "vm-1")
  obtain ⟨same, deleted⟩ := detour "vm-1" true
  have sent : delete.sent = (.delete, "/vms/vm-1/?removeData=true") := deleted.trans (by decide)
  refine ⟨addressed.2 volume, distinct volume machine (.inl (by decide)), same, ?_, sent, ?_⟩
  · exact fun h => absurd (astray.1 h).plain (by decide)
  · rw [sent]
    decide +kernel

end Http.Client

end StorageDriver
