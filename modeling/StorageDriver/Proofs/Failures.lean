import StorageDriver.Proofs.Operations
import StorageDriver.Proofs.SearchThorough
import StorageDriver.Proofs.Standing

namespace StorageDriver

namespace Error

/-- Anything but that the driver came to what it takes to be impossible. -/
def IsExpected : Error → Prop
  | internal _ => False
  | _ => True

def isTask : Error → Bool
  | taskFailed .. | taskIncomplete .. => true
  | _ => false

theorem isExpected_of_isRemote {e : Error} (h : e.isRemote = true) : e.IsExpected := by
  cases e with
  | internal => cases h
  | _ => trivial

theorem isExpected_of_isTask {e : Error} (h : e.isTask = true) : e.IsExpected := by
  cases e with
  | internal => cases h
  | _ => trivial

end Error

/-- A search fails with what a center said, or because it found nothing, was given up or could not
be begun. -/
theorem Search.fails_of_follow {R : Type} [Remote R] {P : Error → Prop} (hr : Remote.Fails R P)
    (unknown : ∀ host, P (.notRegistered host)) {q : Query} (cancelled : P .cancelled)
    (missed : P q.missed) {n : Network R} {pool : Nat} {spent : Bool} {ms : List (Nat × Move)}
    {s : State R} {es : List Event} (hf : (start q pool spent n).follow ms = some (s, es))
    {e : Error} (h : s.outcome = .error e) : P e := by
  have said : ∀ v ∈ es, ∀ e, v.fault? = some e → P e :=
    follow_induction (P := fun es _ => ∀ v ∈ es, ∀ e, v.fault? = some e → P e) nofun
      (fun _ _ _ hu => hu)
      (fun _ _ _ _ _ hu hc v hv =>
        (List.mem_append.1 hv).elim (hu v) (fails_of_change hr unknown hc v)) hf
  unfold State.outcome at h
  split at h
  · cases h
  · rename_i e' _ he
    obtain ⟨v, hv, hve⟩ := (traced_follow hf).failed e' he
    exact Except.error.inj h ▸ said v hv e' hve
  · obtain rfl := Except.error.inj h
    split
    · exact cancelled
    · rw [query_follow hf]
      exact missed

theorem Fleet.expected : Remote.Fails Fleet Error.IsExpected :=
  fails.imp fun _ => Error.isExpected_of_isRemote

namespace Attempt

variable {α β : Type} {env : Setting} {P : Error → Prop}

/-- Wherever it starts, what `p` fails with is as `P` says. -/
def Fails (env : Setting) (P : Error → Prop) (p : Attempt α) : Prop :=
  ∀ (w : World Fleet) e w', p.Runs env w (.error e) w' → P e

theorem fails_pure (a : α) : (pure a : Attempt α).Fails env P := by
  intro w e w' h
  cases h

theorem fails_throw {e : Error} (h : P e) : (throw e : Attempt α).Fails env P := by
  intro w e w' hx
  cases hx
  exact h

theorem fails_nodes (op : Nodes.Op) : (nodes op).Fails env P := by
  intro w e w' h
  cases h.direct (all_nodes trivial)

theorem Fails.bind {p : Attempt α} {f : α → Attempt β} (hp : p.Fails env P)
    (hf : ∀ a, (f a).Fails env P) : (p >>= f).Fails env P := by
  intro w e w' h
  obtain ⟨a, u, -, h⟩ | ⟨e', h, he⟩ := h.of_bind
  · exact hf a u e w' h
  · exact Except.error.inj he ▸ hp w e' w' h

theorem fails_ask (s : Session) (q : Request) : (ask s q).Fails env Error.IsExpected := by
  intro w e w' h
  have h := h.direct ⟨trivial, fun _ => trivial⟩
  exact Fleet.expected.of_ask (congrArg Prod.fst h)

theorem fails_session (host : String) (reconnect : Bool) :
    (session host reconnect).Fails env Error.IsExpected := by
  have client : (client host).Fails env Error.IsExpected := by
    intro w e w' h
    have h := h.direct ⟨trivial, fun _ => trivial⟩
    exact Fleet.expected.of_client (fun _ => trivial) (congrArg Prod.fst h)
  have connect : (connect host).Fails env Error.IsExpected := by
    intro w e w' h
    have h := h.direct ⟨trivial, fun _ => trivial⟩
    exact Fleet.expected.of_connect (fun _ => trivial) (congrArg Prod.fst h)
  unfold session
  cases reconnect with
  | true => exact connect.bind fun _ => client
  | false => exact client

theorem fails_search (q : Query) : (search q).Fails env Error.IsExpected := by
  intro w e w' h
  cases h with
  | act hx hr =>
    cases hr
    obtain ⟨-, he, -⟩ | ⟨-, ms, t, es, hf, he, -⟩ := hx.searched
    · exact Except.error.inj he ▸ trivial
    · exact Search.fails_of_follow Fleet.expected (fun _ => trivial) trivial trivial hf he.symm

end Attempt

open Attempt

variable {env : Setting}

theorem VirtualMachine.fails_renew (m : VirtualMachine) (reconnect : Bool) :
    (m.renew reconnect).Fails env Error.IsExpected :=
  (fails_session m.host reconnect).bind fun s =>
    (fails_ask s (.machine m.id)).bind fun _ => fails_pure _

namespace Node

theorem fails_find (uuid name : String) : (find uuid name).Fails env Error.IsExpected :=
  (fails_search _).bind fun _ => (fails_nodes _).bind fun _ => fails_pure _

variable (cluster : ∀ node e, env.clusterUuid node = .error e → e.IsExpected)
include cluster

theorem fails_uuid (name : String) : (uuid name).Fails env Error.IsExpected := by
  have asked : (clusterUuid name).Fails env Error.IsExpected := fun _ e _ h =>
    cluster name e (congrArg Prod.fst (h.direct ⟨trivial, fun _ => trivial⟩))
  have fetch : (fetchUuid name).Fails env Error.IsExpected := by
    refine asked.bind fun known => ?_
    split
    · exact (fails_throw trivial).bind fun _ => fails_pure _
    · exact fails_pure _
  refine (fails_nodes _).bind fun known => ?_
  cases known with
  | none => exact fails_throw trivial
  | some known =>
    dsimp only
    split
    · exact fails_pure _
    · exact fetch.bind fun _ => (fails_nodes _).bind fun _ => fails_pure _

theorem fails_machineOf (name : String) : (machineOf name).Fails env Error.IsExpected := by
  refine (fails_uuid cluster name).bind fun uuid => (fails_nodes _).bind fun known => ?_
  cases known with
  | none => exact fails_find uuid name
  | some m =>
    exact (m.fails_renew true).bind fun _ => (fails_nodes _).bind fun _ => fails_pure _

end Node

theorem Csi.Operation.fails_plan
    (cluster : ∀ node e, env.clusterUuid node = .error e → e.IsExpected) (o : Operation) :
    o.plan.Fails env Error.IsExpected := by
  have need (what text : String) : (need what text).Fails env Error.IsExpected := by
    unfold Csi.need
    split
    · exact fails_throw trivial
    · exact fails_pure _
  cases o with
  | create r =>
    refine (need _ _).bind fun _ => ?_
    split
    · exact fails_throw trivial
    · exact fails_throw trivial
    · exact fails_pure _
  | delete id | expand id bytes capability => exact (need _ _).bind fun _ => fails_pure _
  | publish id node | unpublish id node =>
    exact (need _ _).bind fun _ => (need _ _).bind fun _ =>
      (Node.fails_machineOf cluster node).bind fun _ => fails_pure _

theorem Work.fails_prepare (v : Volumes) (o : Work) :
    (o.prepare v).Fails env Error.IsExpected := by
  have check : o.check.Fails env Error.IsExpected := by
    cases o with
    | create spec =>
      simp only [check]
      split
      · exact fails_throw trivial
      · split
        · exact fails_throw trivial
        · exact fails_pure _
    | _ => exact fails_pure _
  have order (s : Session) : (o.order s).Fails env Error.IsExpected := by
    cases o with
    | create spec | delete id wipe => exact fails_pure _
    | expand id capacity | attach m id => exact (fails_ask s _).bind fun _ => fails_pure _
    | detach m id =>
      simp only [Work.order]
      split
      · exact fails_throw trivial
      · exact fails_pure _
  exact check.bind fun _ => (fails_session v.host true).bind fun s =>
    (order s).bind fun _ => fails_pure _

namespace Poller

variable {s : Session} {t : Task} {states : List String} {w u : World Fleet}

variable (env) in
theorem exists_watch (p : Poller) {k time : Nat} (h : w.Watched s.host t.id states k time u)
    (fuel polls elapsed pause : Nat) :
    ∃ r u', (p.watch s t fuel polls elapsed pause).execute env u = (.ok r, u') := by
  induction fuel generalizing k time u polls elapsed pause with
  | zero =>
    obtain ⟨u', hx, -⟩ := h.ask env
    unfold watch
    rw [execute_bind, hx]
    dsimp only
    split
    · exact ⟨_, _, rfl⟩
    · exact ⟨_, _, rfl⟩
  | succ fuel ih =>
    obtain ⟨u', hx, h'⟩ := h.ask env
    unfold watch
    rw [execute_bind, hx]
    dsimp only
    split
    · exact ⟨_, _, rfl⟩
    · obtain ⟨u'', hs, h''⟩ := h'.sleep env (min pause (p.limit - elapsed))
      rw [execute_bind, hs]
      exact ih h'' _ _ _

theorem isTask_of_wait (p : Poller) (ht : t.id ≠ "") (h : w.Watched s.host t.id states 0 0 u)
    {e : Error} {u' : World Fleet} (hx : (p.wait s t).execute env u = (.error e, u')) :
    e.isTask = true := by
  obtain ⟨v, hs, h'⟩ := h.sleep env p.delay
  obtain ⟨r, v', hr⟩ := exists_watch env p h' (p.limit + UInt32.size) 0 p.delay p.pause
  have polled : (p.poll s t).execute env u = (.ok r, v') := by
    rw [poll, if_neg ht, execute_bind, hs]
    exact hr
  rw [wait, execute_bind, polled] at hx
  have result : r.result = .error e := (Prod.mk.inj hx).1
  unfold Task.Outcome.result at result
  split at result
  · cases result
  · exact Except.error.inj result ▸ rfl
  · exact Except.error.inj result ▸ rfl

end Poller

end StorageDriver
