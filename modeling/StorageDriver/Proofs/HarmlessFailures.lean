import StorageDriver.Proofs.Attachments
import StorageDriver.Proofs.CreatedVolumes
import StorageDriver.Proofs.Failures
import StorageDriver.Proofs.NodeFreshness

namespace StorageDriver

namespace Plane

variable {p : Plane} {c : Command}

theorem refused {e : Error} (h : (p.obey c).1 = .error e)
    (here : ∀ doc, c = .putMachine doc → p.machines.any (·.id = doc.id) = true) :
    (p.obey c).2 = p := by
  cases c with
  | putMachine doc =>
    simp only [obey, here doc rfl, if_true] at h
    cases h
  | createVolume order =>
    simp only [obey] at h ⊢
    cases hs : Double.ofText order.size.toList with
    | ok size =>
      rw [hs] at h
      cases h
    | error e' => rfl
  | deleteVolume id wipe | putVolume doc =>
    simp only [obey] at h ⊢
    split at h
    · cases h
    · rw [if_neg ‹_›]

theorem commands_obey (p : Plane) (c : Command) :
    ∃ n ≤ 1, (p.obey c).2.calls.commands = p.calls.commands + n := by
  cases c with
  | putMachine doc | createVolume order | deleteVolume id wipe | putVolume doc =>
    simp only [obey]
    split
    · exact ⟨1, Nat.le_refl 1, rfl⟩
    · exact ⟨0, Nat.zero_le 1, rfl⟩

end Plane

/-- How many commands the plane of `host` has accepted. Each has started a task. -/
def Fleet.commands (f : Fleet) (host : String) : Nat :=
  ((f.get? host).map (·.calls.commands)).getD 0

theorem Fleet.commands_of_estates {f g : Fleet} (h : g.estates = f.estates) :
    g.commands = f.commands := by
  funext host
  have hs := congrArg (Option.map (·.calls.commands)) (congrFun h host)
  rw [estates, estates, Option.map_map, Option.map_map] at hs
  exact congrArg (Option.getD · 0) hs

/-- The plane of `host` has accepted one command at most from `f` to `g`, and no other has accepted
any. -/
def Fleet.Bids (host : String) (f g : Fleet) : Prop :=
  (∃ n ≤ 1, g.commands host = f.commands host + n) ∧ ∀ k ≠ host, g.commands k = f.commands k

namespace Fleet.Bids

variable {host : String} {f g k : Fleet}

theorem of_estates (h : g.estates = f.estates) : Bids host f g := by
  rw [Bids, commands_of_estates h]
  exact ⟨⟨0, Nat.zero_le 1, rfl⟩, fun _ _ => rfl⟩

theorem after (h : Bids host g k) (hg : g.estates = f.estates) : Bids host f k := by
  rwa [Bids, commands_of_estates hg] at h

theorem of_obey {p : Plane} {c : Command} (hp : f.get? host = some p)
    (hg : g.estates = estates (f.put host (p.obey c).2)) : Bids host f g := by
  rw [Bids, commands_of_estates hg]
  constructor
  · obtain ⟨n, h1, hc⟩ := p.commands_obey c
    refine ⟨n, h1, ?_⟩
    rw [commands, Table.get?_put, if_pos rfl, commands, hp]
    exact hc
  · intro k hk
    rw [commands, Table.get?_put, if_neg (Ne.symm hk)]
    rfl

end Fleet.Bids

section

variable {env : Setting} {v : Volumes} {o : Work} {w w' : World Fleet}

/-- How a piece of work may end. -/
inductive Work.Ends (env : Setting) (v : Volumes) (o : Work) (w : World Fleet) :
    Except Error o.Answer → World Fleet → Prop
  | unready {e w'} (h : (o.prepare v).execute env w = (.error e, w')) : Ends env v o w (.error e) w'
  | refused {s c u e w'} (ready : (o.prepare v).execute env w = (.ok (s, c), u))
      (h : (Attempt.ask s (.command c)).execute env u = (.error e, w')) :
    Ends env v o w (.error e) w'
  | unsettled {s c u t u' e w'} (ready : (o.prepare v).execute env w = (.ok (s, c), u))
      (given : (Attempt.ask s (.command c)).execute env u = (.ok t, u'))
      (h : (v.poller.wait s t).execute env u' = (.error e, w')) : Ends env v o w (.error e) w'
  | settled {s c u t u' u'' r w'} (ready : (o.prepare v).execute env w = (.ok (s, c), u))
      (given : (Attempt.ask s (.command c)).execute env u = (.ok t, u'))
      (finished : (v.poller.wait s t).execute env u' = (.ok (), u''))
      (h : (o.conclude s).execute env u'' = (r, w')) : Ends env v o w r w'

theorem Work.ends {r : Except Error o.Answer} (h : (o.attempt v).execute env w = (r, w')) :
    Ends env v o w r w' := by
  rw [attempt_eq] at h
  obtain ⟨⟨s, c⟩, u, ready, h⟩ | ⟨e, he, rfl⟩ := Attempt.of_execute_bind h
  · obtain ⟨t, u', given, h⟩ | ⟨e, he, rfl⟩ := Attempt.of_execute_bind h
    · obtain ⟨_, u'', finished, h⟩ | ⟨e, he, rfl⟩ := Attempt.of_execute_bind h
      · exact .settled ready given finished h
      · exact .unsettled ready given he
    · exact .refused ready he
  · exact .unready he

theorem Work.bids (hw : w.Proper) {r : Except Error o.Answer}
    (h : (o.attempt v).execute env w = (r, w')) :
    Fleet.Bids v.host w.net.planes w'.net.planes := by
  obtain ⟨-, hn⟩ | ⟨c, p, -, hp, hn, -⟩ := course hw h
  · exact .of_estates hn
  · exact .of_obey hp hn

theorem Csi.Operation.bids (hw : w.Proper) {o : Csi.Operation} {r : Except Error o.Answer}
    (h : (o.attempt v).Runs env w r w') : Fleet.Bids v.host w.net.planes w'.net.planes := by
  rw [attempt_plan] at h
  obtain ⟨p, u, hp, h⟩ | ⟨e, hp, -⟩ := h.of_bind
  · have hu := o.enquires_plan.owns_of_runs hp
    have pu := World.proper_of_runs hw hp
    obtain ⟨a, u', ha, h⟩ | ⟨e', ha, -⟩ := h.of_bind
    · cases h
      exact (Work.bids pu (ha.direct (p.work.direct_attempt v))).after hu
    · exact (Work.bids pu (ha.direct (p.work.direct_attempt v))).after hu
  · exact .of_estates (o.enquires_plan.owns_of_runs hp)

/-- The machine was changed and the task finished, but then the machine was not to be fetched. -/
def Work.Unfetched (env : Setting) (v : Volumes) (m : VirtualMachine) (id : String)
    (w : World Fleet) (e : Error) (w' : World Fleet) : Prop :=
  ∃ s c u t u' u'', ((attach m id).prepare v).execute env w = (.ok (s, c), u) ∧
    (Attempt.ask s (.command c)).execute env u = (.ok t, u') ∧
    (v.poller.wait s t).execute env u' = (.ok (), u'') ∧
    (m.renew false).execute env u'' = (.error e, w')

theorem Volumes.not_lost (hw : w.Proper) {spec : VolumeSpec} {s : Session} {c : Command}
    {t : Task} {u u' u'' : World Fleet} {e : Error}
    (ready : ((Work.create spec).prepare v).execute env w = (.ok (s, c), u))
    (given : (Attempt.ask s (.command c)).execute env u = (.ok t, u'))
    (finished : (v.poller.wait s t).execute env u' = (.ok (), u'')) :
    ((Work.create spec).conclude s).execute env u'' ≠ (.error e, w') := by
  intro h
  have owns := ((Work.create spec).enquires_prepare v).owns ready
  obtain ⟨-, rfl⟩ := Work.orders_of_prepare hw.net ready
  obtain ⟨⟨e, he⟩, -⟩ | ⟨p, hp, -, hn⟩ := Attempt.given owns given
  · cases he
  have volumes : u''.net.planes.volumes? s.host = some (p.volumes ++ [p.made spec]) := by
    have hu : u''.net.planes.estates = _ :=
      Eq.trans ((v.poller.enquires_wait s t).owns finished) hn
    rw [Fleet.volumes?_of_estates hu, Fleet.volumes?, Table.get?_put, if_pos rfl,
      Option.map_some, p.volumes_create]
  obtain ⟨x, hx⟩ := VolumeSpec.execute_conclude env (p.fits_made spec) volumes
  cases hx.symm.trans h

theorem Work.Orders.exists_machine {f : Fleet} {host : String} {doc : VmInfo}
    (h : o.Orders f host (.putMachine doc)) : ∃ m ∈ o.machine?, m.id = doc.id := by
  cases o with
  | attach m id =>
    obtain ⟨u, -, hd⟩ := h
    exact ⟨m, rfl, Command.putMachine.inj hd ▸ rfl⟩
  | detach m id => exact ⟨m, rfl, Command.putMachine.inj h.2 ▸ rfl⟩
  | create spec | delete id wipe => cases h
  | expand id capacity =>
    obtain ⟨u, -, hd⟩ := h
    cases hd

/-- Work that fails with anything but its task changed nothing, unless a machine could not be
fetched that was changed. -/
theorem Work.failed (hw : w.Proper)
    (here : ∀ m ∈ o.machine?, ∀ p, w.net.planes.get? v.host = some p →
      p.machines.any (·.id = m.id) = true)
    {e : Error} (h : (o.attempt v).execute env w = (.error e, w')) :
    e.IsExpected ∧ (e.isTask = false →
      w.Owns w' ∨ ∃ m id, o = .attach m id ∧ Unfetched env v m id w e w') := by
  cases ends h with
  | unready h =>
    exact ⟨o.fails_prepare v _ _ _ (Attempt.runs_of_execute h),
      fun _ => .inl ((o.enquires_prepare v).owns h)⟩
  | @refused s c u e w' ready h =>
    refine ⟨Attempt.fails_ask _ _ _ _ _ (Attempt.runs_of_execute h), fun _ => .inl ?_⟩
    obtain ⟨hh, ho⟩ := orders_of_prepare hw.net ready
    obtain ⟨-, hn⟩ | ⟨p, hp, hr, hn⟩ := Attempt.given ((o.enquires_prepare v).owns ready) h
    · exact hn
    rw [hh] at hp hn
    have same : (p.obey c).2 = p := by
      refine Plane.refused hr.symm fun doc hd => ?_
      obtain ⟨m, hm, hi⟩ := (hd ▸ ho).exists_machine
      exact hi ▸ here m hm p hp
    exact Eq.trans hn (Fleet.estates_put_of_eq hp (congrArg Plane.estate same))
  | unsettled ready given h =>
    obtain ⟨ht, watched⟩ := World.watched_of_command given
    have task := v.poller.isTask_of_wait ht watched h
    refine ⟨Error.isExpected_of_isTask task, fun he => ?_⟩
    rw [task] at he
    cases he
  | settled ready given finished h =>
    cases o with
    | create spec => exact (Volumes.not_lost hw ready given finished h).elim
    | attach m id =>
      exact ⟨m.fails_renew false _ _ _ (Attempt.runs_of_execute h),
        fun _ => .inr ⟨m, id, rfl, _, _, _, _, _, _, ready, given, finished, h⟩⟩
    | delete id wipe | expand id capacity | detach m id => cases h

theorem Volumes.shows_attached (hw : w.Proper) {m m' : VirtualMachine} {id : String}
    (hh : v.host = m.host) (hd : w.document m.host m.id = some m.info)
    (h : (v.attach m id).execute env w = (.ok m', w')) : ∃ d, m'.diskOf id = some d := by
  have hs : (w.document v.host m.id).isSome = true := by
    rw [hh, hd]
    rfl
  obtain ⟨⟨e, he⟩, -⟩ | ⟨u, hu, put, hi⟩ := v.attached hw hs h
  · cases he
  have shown : some m'.info = some (Plane.kept (m.info.withDisk u)) := by
    rw [← hi m' rfl, ← hh]
    exact put.document
  have attaches : m.info.Attaches id (m.info.withDisk u) := ⟨u, Fleet.id_of_volume? hu, rfl⟩
  obtain ⟨d, hm, hv⟩ := attaches.backs.grows (VmInfo.grows_kept _)
  rw [VirtualMachine.diskOf, Option.some.inj shown]
  exact Option.isSome_iff_exists.1 (List.find?_isSome.2 ⟨d, hm, decide_eq_true hv⟩)

/-- The volume was attached to the machine of the node and the task finished, but then the machine
was not to be fetched. -/
def Csi.Operation.Unfetched (env : Setting) (v : Volumes) (o : Csi.Operation) (w : World Fleet)
    (e : Error) (w' : World Fleet) : Prop :=
  ∃ id node m u, o = .publish id node ∧ (Node.machineOf node).Runs env w (.ok m) u ∧
    Work.Unfetched env v m id u e w'

namespace World

variable {host : String} {o : Csi.Operation}

theorem same_host (hh : w.net.planes.Holds [host] fun _ => True) {m : VirtualMachine} {i : VmInfo}
    (hd : w.document m.host m.id = some i) {p : Plane} (hp : w.net.planes.get? v.host = some p) :
    v.host = m.host := by
  rw [List.mem_singleton.1 (hh.document hd).1, List.mem_singleton.1 (hh v.host p hp).1]

theorem failed (hw : w.Proper) (hh : w.net.planes.Holds [host] fun _ => True) {e : Error}
    (hx : (o.attempt v).Runs env w (.error e) w') :
    ((∀ node e, env.clusterUuid node = .error e → e.IsExpected) → e.IsExpected) ∧
      (e.isTask = false → w.Owns w' ∨ o.Unfetched env v w e w') := by
  rw [Csi.Operation.attempt_plan] at hx
  obtain ⟨p, u, hp, hx⟩ | ⟨e, hp, he⟩ := hx.of_bind
  · have hu : w.Owns u := o.enquires_plan.owns_of_runs hp
    have pu := proper_of_runs hw hp
    have planes := hh.of_estates hu
    have documents : ∀ m ∈ p.work.machine?, u.document m.host m.id = some m.info :=
      fun m hm => hu.document ▸ Csi.Operation.machine_of_plan hw hp hm
    obtain ⟨a, u', ha, hx⟩ | ⟨e', ha, he⟩ := hx.of_bind
    · exfalso
      have ha := ha.direct (p.work.direct_attempt v)
      have refused : p.answer a = .error e :=
        (Prod.mk.inj (hx.direct (p := .ofOutcome (p.answer a)) trivial)).1
      cases Csi.Operation.planned hp with
      | free _ sure =>
        obtain ⟨b, hb⟩ := sure a
        cases hb.symm.trans refused
      | unpublish found => cases refused
      | publish found =>
        obtain ⟨q, hq⟩ := Work.plane_of_ok pu ha
        have hd := documents _ rfl
        obtain ⟨d, hd⟩ := Volumes.shows_attached pu (same_host planes hd hq) hd ha
        simp only [Volumes.scsiId, hd] at refused
        cases refused
    · obtain rfl := Except.error.inj he
      have ha := ha.direct (p.work.direct_attempt v)
      have here : ∀ m ∈ p.work.machine?, ∀ q, u.net.planes.get? v.host = some q →
          q.machines.any (·.id = m.id) = true := by
        intro m hm q hq
        refine Fleet.any_of_document hq ?_
        rw [same_host planes (documents m hm) hq]
        exact Option.isSome_iff_exists.2 ⟨_, documents m hm⟩
      obtain ⟨expected, harmless⟩ := Work.failed pu here ha
      refine ⟨fun _ => expected, fun task => (harmless task).imp (Eq.trans · hu) ?_⟩
      rintro ⟨m, id, attach, unfetched⟩
      cases Csi.Operation.planned hp with
      | free machine =>
        rw [attach] at machine
        cases machine
      | unpublish found => cases attach
      | publish found =>
        obtain ⟨rfl, rfl⟩ := Work.attach.inj attach
        exact ⟨_, _, _, _, rfl, found, unfetched⟩
  · obtain rfl := Except.error.inj he
    exact ⟨fun cluster => o.fails_plan cluster _ _ _ hp,
      fun _ => .inl (o.enquires_plan.owns_of_runs hp)⟩

/-- Where there is one plane an operation starts one task at most. One that fails with anything but
its task leaves all that the plane owns as it was, unless it attached a volume and could not fetch
the machine after that. None comes to what the driver takes to be impossible. -/
theorem Used.failure_harmless (h : w.Used [host]) (env : Setting) (v : Volumes) (o : Csi.Operation)
    {r : Except Error o.Answer} {w' : World Fleet}
    (hx : (o.attempt v).Runs env w r w') :
    Fleet.Bids v.host w.net.planes w'.net.planes ∧
      (∀ e, r = .error e → e.isTask = false → w.Owns w' ∨ o.Unfetched env v w e w') ∧
      ((∀ node e, env.clusterUuid node = .error e → e.IsExpected) →
        ∀ e, r = .error e → e.IsExpected) := by
  have hf (e : Error) (he : r = .error e) := failed h.proper h.holds.2.1 (he ▸ hx)
  exact ⟨Csi.Operation.bids h.proper hx, fun e he => (hf e he).2,
    fun cluster e he => (hf e he).1 cluster⟩

end World

end

theorem Solo.failure_harmless_unpublish :
    ∃ e w', (Csi.unpublish { host := "a" } "vol-2" "n").execute {} registered = (.error e, w') ∧
      e.isTask = false ∧ e.IsExpected ∧ registered.Owns w' ∧
      Fleet.Bids "a" registered.net.planes w'.net.planes := by
  have refused : ((Csi.unpublish { host := "a" } "vol-2" "n").execute {} registered).1 =
      .error (.invalidArgument "volume vol-2 is not attached to m (u) in  (dc) @ a") := by
    decide +kernel
  have hw := used_registered
  generalize registered = w at *
  generalize hx : (Csi.unpublish { host := "a" } "vol-2" "n").execute {} w = x at refused
  obtain ⟨r, w'⟩ := x
  obtain rfl : r = _ := refused
  obtain ⟨bids, harmless, expected⟩ :=
    hw.failure_harmless {} { host := "a" } (.unpublish "vol-2" "n") (Attempt.runs_of_execute hx)
  have known : ∀ node e, Setting.clusterUuid {} node = .error e → e.IsExpected :=
    fun _ _ he => Except.error.inj he ▸ trivial
  refine ⟨_, w', rfl, rfl, expected known _ rfl, ?_, bids⟩
  obtain owns | ⟨_, _, _, _, ho, -⟩ := harmless _ rfl rfl
  · exact owns
  · cases ho

end StorageDriver
