import StorageDriver.Csi.Service
import StorageDriver.Proofs.Documents
import StorageDriver.Proofs.Procedures

namespace StorageDriver

namespace VmInfo

/-- `doc` is `i` with a disk for the volume `id`. -/
def Attaches (id : String) (i doc : VmInfo) : Prop :=
  ∃ v : VolumeInfo, v.id = id ∧ doc = i.withDisk v

def Detaches (id : String) (i doc : VmInfo) : Prop :=
  (∃ d ∈ i.disks, d.id = id) ∧ doc = i.withoutDisk id

variable {id : String} {i doc : VmInfo}

theorem Attaches.id_eq (h : i.Attaches id doc) : doc.id = i.id := by
  obtain ⟨u, -, rfl⟩ := h
  rfl

theorem Detaches.id_eq (h : i.Detaches id doc) : doc.id = i.id := by
  obtain ⟨-, rfl⟩ := h
  rfl

theorem Attaches.kept_ne (h : i.Attaches id doc) : Plane.kept doc ≠ i := by
  obtain ⟨u, -, rfl⟩ := h
  intro he
  have hl := congrArg (·.disks.length) he
  simp [Plane.kept, Plane.length_assignScsi, withDisk] at hl

theorem Detaches.kept_ne (h : i.Detaches id doc) : Plane.kept doc ≠ i := by
  obtain ⟨⟨d, hd, hi⟩, rfl⟩ := h
  intro he
  have hl := congrArg (·.disks.length) he
  have hlt : (i.disks.filter (·.id ≠ id)).length < i.disks.length :=
    List.length_filter_lt_length_iff_exists.2 ⟨d, hd, by simp [hi]⟩
  simp only [Plane.kept, Plane.length_assignScsi, withoutDisk] at hl
  omega

end VmInfo

/-- How far a call has come that changes one machine. -/
inductive Stage
  | seeking
  /-- The document `i` came from the plane of `host`. -/
  | holding (host : String) (i : VmInfo)
  /-- `doc` was put in the place of `i`. -/
  | changed (host : String) (i doc : VmInfo)

namespace Stage

def after : Stage → (a : Action) → a.Answer → Stage
  | seeking, a, x => (a.fetched? x).elim seeking fun p => holding p.1 p.2
  | holding host i, a, x => (a.accepted? x).elim (holding host i) (changed host i)
  | changed host i doc, _, _ => changed host i doc

/-- Only the plane of `target` is given documents, and only in exchange for one that was fetched. -/
def May (target : String) (edit : VmInfo → VmInfo → Prop) (g : Stage) (a : Action) : Prop :=
  ∀ host doc, a.puts? = some (host, doc) → host = target ∧ ∃ h i, g = holding h i ∧ edit i doc

variable {target : String} {edit : VmInfo → VmInfo → Prop} {g : Stage}

theorem may_of_none {a : Action} (h : a.puts? = none) : g.May target edit a := by
  intro host doc hd
  rw [h] at hd
  cases hd

end Stage

def Action.IsIdle : Action → Prop
  | .nodes _ | .search _ | .ask _ (.machine _) | .ask _ (.command (.putMachine _)) => False
  | _ => True

namespace Action.IsIdle

variable {a : Action}

theorem puts (h : a.IsIdle) : a.puts? = none := by
  cases hp : a.puts? with
  | none => rfl
  | some p =>
    obtain ⟨session, -, rfl⟩ := Action.eq_of_puts (p.eta ▸ hp)
    cases h

theorem fetched (h : a.IsIdle) (x : a.Answer) : a.fetched? x = none := by
  cases a with
  | ask s q =>
    cases q with
    | machine id => cases h
    | _ => rfl
  | search q => cases h
  | _ => rfl

theorem after (h : a.IsIdle) (g : Stage) (x : a.Answer) : g.after a x = g := by
  cases g with
  | seeking => rw [Stage.after, h.fetched, Option.elim_none]
  | holding host i => rw [Stage.after, Action.accepted_of_none h.puts, Option.elim_none]
  | changed host i doc => rfl

end Action.IsIdle

section

variable {α β : Type} (target : String) (edit : VmInfo → VmInfo → Prop)

/-- Whatever is answered, a procedure does what it may and ends as `post` says. -/
def Proc.Follows (post : Stage → α → Prop) : Proc α → Stage → Prop
  | .done a, g => post g a
  | .act a next, g =>
    g.May target edit a ∧ ∀ x, a.Fits x → (next x).Follows post (g.after a x)

variable {target edit}

theorem Proc.Follows.bind {mid : Stage → α → Prop} {post : Stage → β → Prop} {p : Proc α}
    {f : α → Proc β} {g : Stage} (hp : p.Follows target edit mid g)
    (hf : ∀ g a, mid g a → (f a).Follows target edit post g) :
    (p.bind f).Follows target edit post g := by
  induction p generalizing g with
  | done a => exact hf g a hp
  | act a next ih => exact ⟨hp.1, fun x hx => ih x (hp.2 x hx)⟩

theorem Proc.Follows.imp {post post' : Stage → α → Prop} {p : Proc α} {g : Stage}
    (h : p.Follows target edit post g) (hp : ∀ g a, post g a → post' g a) :
    p.Follows target edit post' g := by
  induction p generalizing g with
  | done a => exact hp g a h
  | act a next ih => exact ⟨h.1, fun x hx => ih x (h.2 x hx)⟩

end

namespace Attempt

section

variable {α β : Type} (target : String) (edit : VmInfo → VmInfo → Prop)

def Follows (post : Stage → α → Prop) (p : Attempt α) (g : Stage) : Prop :=
  p.run.Follows target edit (fun g r => ∀ a, r = .ok a → post g a) g

variable {target edit} {g : Stage}

theorem follows_pure {post : Stage → α → Prop} {a : α} (h : post g a) :
    (pure a : Attempt α).Follows target edit post g := by
  intro b hb
  exact Except.ok.inj hb ▸ h

theorem follows_throw {post : Stage → α → Prop} (e : Error) :
    (throw e : Attempt α).Follows target edit post g := by
  intro b hb
  cases hb

theorem follows_ofOutcome {post : Stage → α → Prop} {r : Except Error α}
    (h : ∀ a, r = .ok a → post g a) : (ofOutcome r).Follows target edit post g :=
  h

theorem follows_bind (mid : Stage → α → Prop) {post : Stage → β → Prop} {p : Attempt α}
    {f : α → Attempt β} (hp : p.Follows target edit mid g)
    (hf : ∀ g a, mid g a → (f a).Follows target edit post g) :
    (p >>= f).Follows target edit post g := by
  unfold Follows
  rw [run_bind]
  refine Proc.Follows.bind hp fun g r hr => ?_
  cases r with
  | ok a => exact hf g a (hr a rfl)
  | error e =>
    intro b hb
    cases hb

theorem Follows.imp {mid post : Stage → α → Prop} {p : Attempt α} (h : p.Follows target edit mid g)
    (hp : ∀ g a, mid g a → post g a) : p.Follows target edit post g :=
  Proc.Follows.imp h fun g _ hr a ha => hp g a (hr a ha)

theorem follows_machine {s : Session} {id : String} {post : Stage → VmInfo → Prop}
    (h : ∀ i : VmInfo, i.id = id → post (g.after (.ask s (.machine id)) (.ok i)) i) :
    (ask s (.machine id)).Follows target edit post g := by
  refine ⟨Stage.may_of_none rfl, fun x hx i hi => ?_⟩
  subst hi
  exact h i hx

theorem follows_search {q : Query} {post : Stage → VirtualMachine → Prop}
    (h : ∀ m, post (g.after (.search q) (.ok m)) m) :
    (search q).Follows target edit post g := by
  refine ⟨Stage.may_of_none rfl, fun x _ m hm => ?_⟩
  subst hm
  exact h m

theorem follows_put {s : Session} {doc : VmInfo} {post : Stage → Task → Prop}
    (may : g.May target edit (.ask s (.command (.putMachine doc))))
    (h : ∀ t, post (g.after (.ask s (.command (.putMachine doc))) (.ok t)) t) :
    (ask s (.command (.putMachine doc))).Follows target edit post g := by
  refine ⟨may, fun x _ t ht => ?_⟩
  subst ht
  exact h t

end

section

variable {α β : Type} {P : α → Prop} {Q : β → Prop}

def Idles (P : α → Prop) (p : Attempt α) : Prop :=
  ∀ target edit g, p.Follows target edit (fun g' a => g' = g ∧ P a) g

theorem idles_pure {a : α} (h : P a) : (pure a : Attempt α).Idles P :=
  fun _ _ _ => follows_pure ⟨rfl, h⟩

theorem idles_throw (e : Error) : (throw e : Attempt α).Idles P := fun _ _ _ => follows_throw e

theorem idles_ofOutcome {r : Except Error α} (h : ∀ a, r = .ok a → P a) : (ofOutcome r).Idles P :=
  fun _ _ _ => follows_ofOutcome fun a ha => ⟨rfl, h a ha⟩

theorem Idles.bind {p : Attempt α} {f : α → Attempt β} (hp : p.Idles P)
    (hf : ∀ a, P a → (f a).Idles Q) : (p >>= f).Idles Q := by
  intro target edit g
  refine follows_bind _ (hp target edit g) fun g' a ha => ?_
  obtain ⟨rfl, ha⟩ := ha
  exact hf a ha target edit g'

theorem Idles.follows {p : Attempt α} {f : α → Attempt β} {target : String}
    {edit : VmInfo → VmInfo → Prop} {g : Stage} {post : Stage → β → Prop} (hp : p.Idles P)
    (hf : ∀ a, P a → (f a).Follows target edit post g) :
    (p >>= f).Follows target edit post g := by
  refine follows_bind _ (hp target edit g) fun g' a ha => ?_
  obtain ⟨rfl, ha⟩ := ha
  exact hf a ha

theorem idles_of_all {p : Attempt α} (h : p.run.All Action.IsIdle) : p.Idles fun _ => True := by
  intro target edit g
  unfold Follows
  generalize p.run = q at h
  induction q with
  | done r => exact fun _ _ => ⟨rfl, trivial⟩
  | act a next ih =>
    refine ⟨Stage.may_of_none h.1.puts, fun x _ => ?_⟩
    rw [h.1.after]
    exact ih x (h.2 x)

theorem idles_connect (host : String) : (connect host).Idles fun _ => True :=
  idles_of_all ⟨trivial, fun _ => trivial⟩

theorem idles_client (host : String) : (client host).Idles fun s => s.host = host := by
  refine fun _ _ g => ⟨Stage.may_of_none rfl, fun x hx s hs => ⟨by cases g <;> rfl, ?_⟩⟩
  subst hs
  exact hx

theorem idles_clusterUuid (node : String) : (clusterUuid node).Idles fun _ => True :=
  idles_of_all ⟨trivial, fun _ => trivial⟩

theorem idles_nodes (op : Nodes.Op) : (nodes op).Idles fun _ => True :=
  fun _ _ g => ⟨Stage.may_of_none rfl, fun _ _ _ _ => ⟨by cases g <;> rfl, trivial⟩⟩

theorem idles_volume (s : Session) (id : String) :
    (ask s (.volume id)).Idles fun v => v.id = id := by
  refine fun _ _ g => ⟨Stage.may_of_none rfl, fun x hx v hv => ⟨by cases g <;> rfl, ?_⟩⟩
  subst hv
  exact hx

theorem idles_session (host : String) (reconnect : Bool) :
    (session host reconnect).Idles fun s => s.host = host := by
  unfold session
  cases reconnect with
  | true => exact (idles_connect host).bind fun _ _ => idles_client host
  | false => exact idles_client host

end

end Attempt

namespace Poller

open Attempt

variable {Q : Action → Prop}

theorem all_watch (p : Poller) {s : Session} {t : Task} (task : Q (.ask s (.task t.id)))
    (sleep : ∀ ms, Q (.sleep ms)) (fuel polls elapsed pause : Nat) :
    (p.watch s t fuel polls elapsed pause).run.All Q := by
  have task : (ask s (.task t.id)).run.All Q := ⟨task, fun _ => trivial⟩
  have sleep (ms : Nat) : (Attempt.sleep ms).run.All Q := ⟨sleep ms, fun _ => trivial⟩
  induction fuel generalizing polls elapsed pause with
  | zero =>
    refine all_bind task fun info => ?_
    dsimp only
    split <;> exact trivial
  | succ fuel ih =>
    refine all_bind task fun info => ?_
    dsimp only
    split
    · exact trivial
    · exact all_bind (sleep _) fun _ => ih _ _ _

theorem all_poll (p : Poller) {s : Session} {t : Task} (task : Q (.ask s (.task t.id)))
    (sleep : ∀ ms, Q (.sleep ms)) : (p.poll s t).run.All Q := by
  unfold Poller.poll
  split
  · exact trivial
  · exact all_bind ⟨sleep _, fun _ => trivial⟩ fun _ => p.all_watch task sleep _ _ _ _

theorem all_wait (p : Poller) {s : Session} {t : Task} (task : Q (.ask s (.task t.id)))
    (sleep : ∀ ms, Q (.sleep ms)) : (p.wait s t).run.All Q :=
  all_bind (p.all_poll task sleep) fun _ => trivial

end Poller

section

open Attempt

variable {target : String} {edit : VmInfo → VmInfo → Prop} {g : Stage}

theorem VirtualMachine.follows_renew {m : VirtualMachine} {post : Stage → VirtualMachine → Prop}
    (reconnect : Bool)
    (h : ∀ (s : Session) (i : VmInfo), s.host = m.host → i.id = m.id →
      post (g.after (.ask s (.machine m.id)) (.ok i)) (m.renewed i)) :
    (m.renew reconnect).Follows target edit post g := by
  refine (idles_session m.host reconnect).follows fun s hs => ?_
  refine follows_bind (fun g' i => i.id = m.id ∧ g' = g.after (.ask s (.machine m.id)) (.ok i))
    (follows_machine fun i hi => ⟨hi, rfl⟩) ?_
  rintro _ i ⟨hi, rfl⟩
  exact follows_pure (h s i hs hi)

namespace Node

theorem idles_uuid (name : String) : (uuid name).Idles fun _ => True := by
  have fetch : (fetchUuid name).Idles fun _ => True := by
    refine (idles_clusterUuid name).bind fun known _ => ?_
    split
    · exact (idles_throw (P := fun _ => False) _).bind fun _ h => h.elim
    · exact idles_pure trivial
  refine (idles_nodes (.uuid name)).bind fun known _ => ?_
  cases known with
  | none => exact idles_throw _
  | some known =>
    dsimp only
    split
    · exact idles_pure trivial
    · exact fetch.bind fun fetched _ => (idles_nodes _).bind fun _ _ => idles_pure trivial

theorem follows_machineOf (name : String) :
    (machineOf name).Follows target edit (fun g m => g = .holding m.host m.info) .seeking := by
  refine (idles_uuid name).follows fun uuid _ => ?_
  refine (idles_nodes (.machine uuid)).follows fun known _ => ?_
  cases known with
  | none =>
    refine follows_bind (fun g m => g = .holding m.host m.info)
      (follows_search fun m => rfl) ?_
    rintro _ m rfl
    exact (idles_nodes _).follows fun _ _ => follows_pure rfl
  | some m =>
    refine follows_bind (fun g m => g = .holding m.host m.info)
      (m.follows_renew true fun s i hs hi => ?_) ?_
    · exact congrArg (Stage.holding · i) hs
    · rintro _ m rfl
      exact (idles_nodes _).follows fun _ _ => follows_pure rfl

end Node

namespace Volumes

variable {v : Volumes} {m : VirtualMachine} {host id : String} {i doc : VmInfo}

theorem follows_put (s : Session) (hs : s.host = target) (he : edit i doc) :
    (v.command s (.putMachine doc)).Follows target edit (fun g _ => g = .changed host i doc)
      (.holding host i) := by
  refine follows_bind (fun g _ => g = .changed host i doc)
    (Attempt.follows_put ?_ fun t => rfl) ?_
  · intro k d hd
    obtain ⟨rfl, rfl⟩ := Prod.mk.inj (Option.some.inj hd)
    exact ⟨hs, host, i, rfl, he⟩
  · rintro _ t rfl
    refine (idles_of_all ?_ target edit _).imp fun _ _ h => h.1
    exact v.poller.all_wait trivial fun _ => trivial

theorem follows_attach (hv : v.host = target)
    (he : ∀ u : VolumeInfo, u.id = id → edit m.info (m.info.withDisk u)) :
    (v.attach m id).Follows target edit (fun g _ => ∃ doc, g = .changed m.host m.info doc)
      (.holding m.host m.info) := by
  refine (idles_session v.host true).follows fun s hs => ?_
  refine (idles_volume s id).follows fun u hu => ?_
  refine follows_bind _ (follows_put s (hs.trans hv) (he u hu)) ?_
  rintro _ _ rfl
  exact m.follows_renew false fun _ _ _ _ => ⟨_, rfl⟩

theorem follows_detach (hv : v.host = target)
    (he : (∃ d ∈ m.info.disks, d.id = id) → edit m.info (m.info.withoutDisk id)) :
    (v.detach m id).Follows target edit (fun g _ => ∃ doc, g = .changed m.host m.info doc)
      (.holding m.host m.info) := by
  refine (idles_session v.host true).follows fun s hs => ?_
  split
  · exact (idles_throw (P := fun _ => False) _).follows fun _ h => h.elim
  · rename_i hd
    exact (follows_put s (hs.trans hv) (he (by simpa using hd))).imp fun _ _ h => ⟨_, h⟩

end Volumes

namespace Csi

theorem all_need (what text : String) : (need what text).run.All Action.IsIdle := by
  unfold need
  split <;> exact trivial

def onMachine {α : Type} (id node : String) (f : VirtualMachine → Attempt α) : Attempt α := do
  need "volume id" id
  need "node id" node
  f (← Node.machineOf node)

def attaching (v : Volumes) (id : String) (m : VirtualMachine) : Attempt (Table String) := do
  let m ← v.attach m id
  let scsi ← .ofOutcome (Volumes.scsiId m id)
  return [("type", "ics-disk"), ("diskUUID", scsi)]

/-- The machine of the node was found to be `m`, and `f` went on with it. -/
def RunsOn {α : Type} (s : Setting) (w : World Fleet) (node : String)
    (f : VirtualMachine → Attempt α) (m : VirtualMachine) (r : Except Error α) (v : World Fleet) :
    Prop :=
  ∃ u, (Node.machineOf node).Runs s w (.ok m) u ∧ (f m).Runs s u r v

theorem runs_need {s : Setting} {w v : World Fleet} {what text : String} {r : Except Error Unit}
    (h : (need what text).Runs s w r v) :
    v = w ∧ (r = .ok () ∨ ∃ reason, r = .error (.invalidArgument reason)) := by
  unfold need at h
  split at h
  · cases h
    exact ⟨rfl, .inr ⟨_, rfl⟩⟩
  · cases h
    exact ⟨rfl, .inl rfl⟩

theorem runs_onMachine {α : Type} {s : Setting} {w v : World Fleet} {id node : String}
    {f : VirtualMachine → Attempt α} {r : Except Error α} (h : (onMachine id node f).Runs s w r v) :
    (∃ text, r = .error (.invalidArgument text)) ∧ v = w ∨
      (∃ e, r = .error e ∧ (Node.machineOf node).Runs s w (.error e) v) ∨
      ∃ m, RunsOn s w node f m r v := by
  unfold onMachine at h
  obtain ⟨_, u, hn, h₁⟩ | ⟨e, hn, rfl⟩ := h.of_bind
  · obtain ⟨rfl, -⟩ := runs_need hn
    obtain ⟨_, u', hn, h₂⟩ | ⟨e, hn, rfl⟩ := h₁.of_bind
    · obtain ⟨rfl, -⟩ := runs_need hn
      obtain ⟨m, u, hm, hf⟩ | ⟨e, hm, rfl⟩ := h₂.of_bind
      · exact .inr (.inr ⟨m, u, hm, hf⟩)
      · exact .inr (.inl ⟨e, rfl, hm⟩)
    · obtain ⟨rfl, he | ⟨text, he⟩⟩ := runs_need hn
      · cases he
      · exact .inl ⟨⟨text, Except.error.inj he ▸ rfl⟩, rfl⟩
  · obtain ⟨rfl, he | ⟨text, he⟩⟩ := runs_need hn
    · cases he
    · exact .inl ⟨⟨text, Except.error.inj he ▸ rfl⟩, rfl⟩

theorem RunsOn.runs {α : Type} {s : Setting} {w v : World Fleet} {node : String}
    {f : VirtualMachine → Attempt α} {m : VirtualMachine} {r : Except Error α}
    (h : RunsOn s w node f m r v) (id : String) :
    (onMachine id node f).Runs s w r v ∨
      ∃ text, (onMachine id node f).Runs s w (.error (.invalidArgument text)) w := by
  have need (what text : String) :
      (need what text).Runs s w (.ok ()) w ∨
        ∃ reason, (need what text).Runs s w (.error (.invalidArgument reason)) w := by
    unfold Csi.need
    split
    · exact .inr ⟨_, .done _ _⟩
    · exact .inl (.done _ _)
  obtain ⟨u, hm, hf⟩ := h
  unfold onMachine
  obtain known | ⟨text, empty⟩ := need "volume id" id
  · obtain known' | ⟨text, empty⟩ := need "node id" node
    · exact .inl (known.bind (known'.bind (hm.bind hf)))
    · exact .inr ⟨text, known.bind (empty.bind_error _)⟩
  · exact .inr ⟨text, empty.bind_error _⟩

/-- Go on with a machine and change it if all goes well. -/
def Changes {α : Type} (target : String) (edit : VmInfo → VmInfo → Prop)
    (f : VirtualMachine → Attempt α) : Prop :=
  ∀ m, (f m).Follows target edit (fun g _ => ∃ doc, g = .changed m.host m.info doc)
    (.holding m.host m.info)

theorem changes_attaching (v : Volumes) (id : String) :
    Changes v.host (VmInfo.Attaches id) (attaching v id) := by
  intro m
  refine follows_bind _ (Volumes.follows_attach rfl fun u hu => ⟨u, hu, rfl⟩) ?_
  rintro _ m' ⟨doc, rfl⟩
  exact (idles_ofOutcome fun _ _ => trivial).follows fun _ (_ : True) => follows_pure ⟨doc, rfl⟩

theorem changes_detach (v : Volumes) (id : String) :
    Changes v.host (VmInfo.Detaches id) (v.detach · id) :=
  fun _ => Volumes.follows_detach rfl fun hd => ⟨hd, rfl⟩

theorem Changes.follows {α : Type} {f : VirtualMachine → Attempt α} (hf : Changes target edit f)
    (id node : String) :
    (onMachine id node f).Follows target edit (fun g _ => ∃ host i doc, g = .changed host i doc)
      .seeking := by
  refine (idles_of_all (all_need _ id)).follows fun _ _ => ?_
  refine (idles_of_all (all_need _ node)).follows fun _ _ => ?_
  refine follows_bind _ (Node.follows_machineOf node) ?_
  rintro _ m rfl
  exact (hf m).imp fun _ _ hg => ⟨_, _, hg⟩

end Csi

end

end StorageDriver
