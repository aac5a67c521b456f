import StorageDriver.Proofs.RepeatedPublications
import StorageDriver.Proofs.Resolutions

namespace StorageDriver

/-- The disk has the id of its volume, and a SCSI id. -/
def DiskInfo.IsSettled (d : DiskInfo) : Prop := d.id = d.volume.id ∧ d.scsi ≠ ""

namespace Plane

variable {ds : List DiskInfo} {i : VmInfo}

theorem assignScsi_settled (h : ∀ d ∈ ds, d.IsSettled) (n : Nat) : assignScsi n ds = ds := by
  induction ds generalizing n with
  | nil => rfl
  | cons d ds ih =>
    obtain ⟨hd, hds⟩ := List.forall_mem_cons.1 h
    rw [assignScsi, if_neg hd.2, ih hds]

theorem assignScsi_append (n : Nat) (ds es : List DiskInfo) :
    assignScsi n (ds ++ es) = assignScsi n ds ++ assignScsi (n + ds.length) es := by
  induction ds generalizing n with
  | nil => rfl
  | cons d ds ih =>
    rw [List.cons_append, assignScsi, ih, assignScsi, List.cons_append, List.length_cons,
      Nat.add_right_comm, Nat.add_assoc]

theorem kept_withDisk (h : ∀ d ∈ i.disks, d.IsSettled) (u : VolumeInfo) :
    ∃ d : DiskInfo, d.IsSettled ∧ d.volume.id = u.id ∧ kept (i.withDisk u) =
      { i with disks := i.disks ++ [d], vncPassword := some VmInfo.consolePassword } := by
  let d : DiskInfo := { DiskInfo.ofVolume u with scsi := s!"scsi0-0-{0 + i.disks.length}-{u.id}" }
  have hd : d.scsi ≠ "" := by simp [d, String.append_eq_empty_iff]
  have hk : assignScsi 0 (i.disks ++ [.ofVolume u]) = i.disks ++ [d] := by
    rw [assignScsi_append, assignScsi_settled h]
    rfl
  exact ⟨d, ⟨rfl, hd⟩, rfl, congrArg
    (fun ds => { i with disks := ds, vncPassword := some VmInfo.consolePassword }) hk⟩

theorem kept_withoutDisk (h : ∀ d ∈ i.disks, d.IsSettled) (id : String) :
    kept (i.withoutDisk id) = { i with
      disks := i.disks.filter (·.volume.id ≠ id)
      vncPassword := some VmInfo.consolePassword } := by
  have hk : assignScsi 0 (i.disks.filter (·.id ≠ id)) = i.disks.filter (·.volume.id ≠ id) := by
    rw [assignScsi_settled fun d hd => h d (List.mem_filter.1 hd).1]
    exact List.filter_congr fun d hd => by rw [(h d hd).1]
  exact congrArg (fun ds => { i with disks := ds, vncPassword := some VmInfo.consolePassword }) hk

end Plane

theorem World.diskLaw_settled : DiskLaw (fun _ => True) fun ds => ∀ d ∈ ds, d.IsSettled where
  nil := nofun
  attach m u _ hm := by
    obtain ⟨d, hd, -, hk⟩ := Plane.kept_withDisk hm u
    rw [hk]
    exact List.forall_mem_append.2 ⟨hm, List.forall_mem_singleton.2 hd⟩
  detach m id _ hm := by
    rw [Plane.kept_withoutDisk hm]
    exact fun d hd => hm d (List.mem_filter.1 hd).1

namespace World

variable {host : String} {env : Setting} {w w' : World Fleet} {v : Volumes} {id node : String}

/-- There is one plane, and all its disks are settled. -/
def Settled (host : String) (w : World Fleet) : Prop :=
  w.Proper ∧ w.net.planes.Holds [host] fun ds => ∀ d ∈ ds, d.IsSettled

theorem History.settled {ms : List VirtualMachine} (h : History [host] (fun _ => True) w ms) :
    w.Settled host := by
  obtain ⟨hw, hh, -⟩ := h.holds diskLaw_settled
  exact ⟨hw, hh⟩

/-- The machine of a node has settled disks, and lives where the volumes do that are attached to it
or detached. -/
theorem Settled.resolved (h : w.Settled host) {m : VirtualMachine} {u : World Fleet}
    (hm : (Node.machineOf node).Runs env w (.ok m) u) :
    Node.Resolved w m u ∧ (∀ d ∈ m.info.disks, d.IsSettled) ∧
      ∀ (o : Work) a u', (o.attempt v).execute env u = (.ok a, u') → v.host = m.host := by
  obtain ⟨hw, hh⟩ := h
  have found := Node.resolved hw hm
  obtain ⟨hi, hs⟩ := hh.document found.document
  refine ⟨found, hs, fun o a u' ha => ?_⟩
  obtain ⟨p, hp⟩ := Work.plane_of_ok found.proper ha
  obtain ⟨hp, -⟩ := hh.of_estates found.owns v.host p hp
  rw [List.mem_singleton.1 hi, List.mem_singleton.1 hp]

theorem Settled.published (h : w.Settled host) {c : Table String}
    (hp : (Csi.publish v id node).Runs env w (.ok c) w') :
    ∃ m, Csi.RunsOn env w node (Csi.attaching v id) m (.ok c) w' ∧
      w.document m.host m.id = some m.info ∧ w'.nodes.Knows node m ∧
      (¬ m.info.Backs id → ∃ d, d.volume.id = id ∧
        c = [("type", "ics-disk"), ("diskUUID", d.scsi)] ∧
        w.Puts m.host { m.info with
          disks := m.info.disks ++ [d]
          vncPassword := some VmInfo.consolePassword } w') := by
  obtain ⟨m, u, hm, hx⟩ := Csi.resolved_of_ok hp
  obtain ⟨x, ha, hc⟩ := Csi.attach_of_attaching hx
  obtain ⟨m', e, rfl, he, rfl⟩ := hc c rfl
  obtain ⟨found, hs, hv⟩ := h.resolved hm
  have hv : v.host = m.host := hv (.attach m id) m' _ ha
  refine ⟨m, ⟨u, hm, hx⟩, found.document, ?_, fun hb => ?_⟩
  · rw [Volumes.nodes_of_attach ha]
    exact Node.knows_of_machineOf hm
  obtain ⟨⟨e, he⟩, -⟩ | ⟨b, hb', hput, hi⟩ := v.attached found.proper (hv ▸ found.isSome) ha
  · cases he
  obtain ⟨d, -, hdb, hk⟩ := Plane.kept_withDisk hs b
  rw [hk, hv] at hput
  have hdi : d.volume.id = id := hdb.trans (Fleet.id_of_volume? hb')
  have hinfo : some m'.info = some _ := (hi m' rfl).symm.trans hput.document
  -- No disk had the volume before, so the first one that has it is the new one.
  have none : m.info.disks.find? (·.volume.id = id) = none :=
    List.find?_eq_none.2 fun d hd he => hb ⟨d, hd, of_decide_eq_true he⟩
  have first : m'.diskOf id = some d := by
    rw [VirtualMachine.diskOf, Option.some.inj hinfo, List.find?_append, none, Option.none_or]
    exact List.find?_cons_of_pos (decide_eq_true hdi)
  obtain rfl : d = e := Option.some.inj (first.symm.trans he)
  exact ⟨d, hdi, rfl, hput.of_owns found.owns⟩

theorem Settled.unpublished (h : w.Settled host)
    (hp : (Csi.unpublish v id node).Runs env w (.ok ()) w') :
    ∃ m, Csi.RunsOn env w node (v.detach · id) m (.ok ()) w' ∧
      w.document m.host m.id = some m.info ∧
      w.Puts m.host { m.info with
        disks := m.info.disks.filter (·.volume.id ≠ id)
        vncPassword := some VmInfo.consolePassword } w' := by
  obtain ⟨m, u, hm, hr⟩ := Csi.resolved_of_ok hp
  obtain ⟨found, hs, hv⟩ := h.resolved hm
  have hx := hr.direct ((Work.detach m id).direct_attempt v)
  have hv : v.host = m.host := hv (.detach m id) () _ hx
  obtain ⟨⟨e, he⟩, -⟩ | ⟨-, hput⟩ := v.detached found.proper (hv ▸ found.isSome) hx
  · cases he
  rw [Plane.kept_withoutDisk hs, hv] at hput
  exact ⟨m, ⟨u, hm, hr⟩, found.document, hput.of_owns found.owns⟩

theorem Settled.refused (h : w.Settled host) {m : VirtualMachine} {u u' : World Fleet}
    {x : Except Error Session} (hm : (Node.machineOf node).Runs env w (.ok m) u)
    (hx : v.session.execute env u = (x, u')) (hb : ¬ m.info.Backs id) :
    w.Owns u' ∧ ∃ e, (v.detach m id).execute env u = (.error e, u') ∧
      (x = .error e ∨ ∃ text, e = .invalidArgument text) := by
  obtain ⟨found, settled, -⟩ := h.resolved (v := v) hm
  have absent : ∀ d ∈ m.info.disks, d.id ≠ id := fun d hd he =>
    hb ⟨d, hd, (settled d hd).1.symm.trans he⟩
  refine ⟨Eq.trans ((Attempt.enquires_session v.host true).owns hx) found.owns, ?_⟩
  cases x with
  | ok s => exact ⟨_, v.execute_detach_absent absent hx, .inr ⟨_, rfl⟩⟩
  | error e =>
    refine ⟨e, ?_, .inl rfl⟩
    unfold Volumes.detach
    rw [Attempt.execute_bind, hx]

/-- A volume that is published to a node and then unpublished leaves the machine as it was but for
the console password, and nothing else has changed. In between the machine has one disk more, whose
SCSI id was answered. To unpublish is to remove the disks of the volume, and is refused without a
command where there are none. -/
theorem publication_undone {ms : List VirtualMachine} (h : History [host] (fun _ => True) w ms)
    (v : Volumes) (id node : String) :
    (∀ env env' c w₁ w₂, (Csi.publish v id node).Runs env w (.ok c) w₁ →
      (Csi.unpublish v id node).Runs env' w₁ (.ok ()) w₂ →
      ∃ m, Csi.RunsOn env w node (Csi.attaching v id) m (.ok c) w₁ ∧
        w.document m.host m.id = some m.info ∧
        (¬ m.info.Backs id → ∃ d, d.volume.id = id ∧
          c = [("type", "ics-disk"), ("diskUUID", d.scsi)] ∧
          w.Puts m.host { m.info with
            disks := m.info.disks ++ [d]
            vncPassword := some VmInfo.consolePassword } w₁ ∧
          w.Puts m.host { m.info with vncPassword := some VmInfo.consolePassword } w₂)) ∧
    (∀ env m u s u', (Node.machineOf node).Runs env w (.ok m) u → v.session.Runs env u (.ok s) u' →
      ¬ m.info.Backs id →
      (∃ text w', (Csi.unpublish v id node).Runs env w (.error (.invalidArgument text)) w' ∧
        w.Owns w') ∧
        ∀ r w', (v.detach m id).Runs env u r w' →
          (∃ text, r = .error (.invalidArgument text)) ∧ w.Owns w') ∧
    (∀ env m r w', Csi.RunsOn env w node (v.detach · id) m r w' → ¬ m.info.Backs id → w.Owns w') ∧
    ∀ env w', (Csi.unpublish v id node).Runs env w (.ok ()) w' →
      ∃ m, Csi.RunsOn env w node (v.detach · id) m (.ok ()) w' ∧
        w.document m.host m.id = some m.info ∧
        w.Puts m.host { m.info with
          disks := m.info.disks.filter (·.volume.id ≠ id)
          vncPassword := some VmInfo.consolePassword } w' := by
  have direct {env : Setting} {m : VirtualMachine} {u : World Fleet} {r : Except Error Unit}
      {w' : World Fleet} (hr : (v.detach m id).Runs env u r w') :
      (v.detach m id).execute env u = (r, w') := hr.direct ((Work.detach m id).direct_attempt v)
  refine ⟨fun env env' c w₁ w₂ hp hu => ?_, fun env m u s u' hm hs hb => ?_,
    fun env m r w' ⟨u, hm, hr⟩ hb => ?_, fun env w' hu => h.settled.unpublished hu⟩
  · obtain ⟨m, found, hd, hk, attached⟩ := h.settled.published hp
    refine ⟨m, found, hd, fun hb => ?_⟩
    obtain ⟨d, hdi, hc, hput⟩ := attached hb
    refine ⟨d, hdi, hc, hput, ?_⟩
    have h₁ : History [host] (fun _ => True) w₁ ms :=
      h.called (o := .publish id node) (fun _ _ _ => trivial) hp
    -- The second call finds the same machine, with the document that the first one left.
    obtain ⟨m₁, ⟨u₁, hm₁, -⟩, hd₁, hput₁⟩ := h₁.settled.unpublished hu
    obtain ⟨hh, hi⟩ := Node.machineOf_of_knows h₁.proper hk hm₁
    rw [hh, hi] at hd₁
    have info : m₁.info = _ := Option.some.inj (hd₁.symm.trans hput.document)
    have disks : (m.info.disks ++ [d]).filter (·.volume.id ≠ id) = m.info.disks := by
      have old : m.info.disks.filter (·.volume.id ≠ id) = m.info.disks :=
        List.filter_eq_self.2 fun e he => decide_eq_true fun hv => hb ⟨e, he, hv⟩
      rw [List.filter_append, old, List.filter_cons_of_neg (by simpa using hdi), List.filter_nil,
        List.append_nil]
    rw [hh, info] at hput₁
    dsimp only at hput₁
    rw [disks] at hput₁
    exact hput.trans hput₁ rfl
  · have connected := hs.direct (Attempt.all_session trivial trivial true)
    obtain ⟨owns, e, refused, he | ⟨text, rfl⟩⟩ := h.settled.refused hm connected hb
    · cases he
    · have found : Csi.RunsOn env w node (v.detach · id) m _ _ :=
        ⟨u, hm, Attempt.runs_of_execute refused⟩
      refine ⟨?_, fun r w' hr => ?_⟩
      · obtain runs | ⟨text, runs⟩ := found.runs id
        · exact ⟨text, u', runs, owns⟩
        · exact ⟨text, w, runs, rfl⟩
      · obtain ⟨rfl, rfl⟩ := Prod.mk.inj (refused.symm.trans (direct hr))
        exact ⟨⟨text, rfl⟩, owns⟩
  · obtain ⟨owns, e, refused, -⟩ := h.settled.refused (v := v) hm rfl hb
    obtain ⟨-, rfl⟩ := Prod.mk.inj (refused.symm.trans (direct hr))
    exact owns

end World

namespace Solo

def unpublish (w : World Fleet) : Except Error Unit × World Fleet :=
  (Csi.unpublish { host := "a" } "vol-2" "n").execute {} w

theorem publication_undone_solo :
    (∃ m d, world.document "a" "vm-1" = some m ∧
      (publish world).1 = .ok [("type", "ics-disk"), ("diskUUID", d.scsi)] ∧
      world.Puts "a" { m with
        disks := m.disks ++ [d]
        vncPassword := some VmInfo.consolePassword } published ∧
      world.Puts "a" { m with vncPassword := some VmInfo.consolePassword }
        (unpublish published).2) ∧
    ∃ text w', (Csi.unpublish { host := "a" } "vol-2" "n").Runs {} world
      (.error (.invalidArgument text)) w' ∧ world.Owns w' := by
  have hw := history fun _ => True
  have hp : (publish world).1.toOption.isSome = true := by decide +kernel
  have hu : (unpublish published).1.toOption.isSome = true := by decide +kernel
  have hm : ((Node.machineOf "n").execute {} world).1.toOption.isSome = true := by decide +kernel
  have hs : ((Volumes.session { host := "a" }).execute {}
      ((Node.machineOf "n").execute {} world).2).1.toOption.isSome = true := by decide +kernel
  have known : world.nodes.uuids.get? "n" = some "u" := by decide +kernel
  have kept :
      ((world.nodes.machines.get? "u").any fun x => x.host = "a" ∧ x.id = "vm-1") = true := by
    decide +kernel
  have free : ((world.document "a" "vm-1").all fun i => ¬ i.Backs "vol-2") = true := by
    decide +kernel
  unfold published at *
  generalize world = w at *
  obtain ⟨c, hc⟩ := Option.isSome_iff_exists.1 hp
  obtain ⟨_, ha⟩ := Option.isSome_iff_exists.1 hu
  obtain ⟨m, hm⟩ := Option.isSome_iff_exists.1 hm
  obtain ⟨s, hs⟩ := Option.isSome_iff_exists.1 hs
  obtain ⟨x, hx, hk⟩ := (Option.any_eq_true _ _).1 kept
  obtain ⟨host, id⟩ := of_decide_eq_true hk
  have pinned {m : VirtualMachine} {u : World Fleet}
      (h : (Node.machineOf "n").Runs {} w (.ok m) u) :
      m.host = "a" ∧ m.id = "vm-1" ∧ ¬ m.info.Backs "vol-2" := by
    obtain ⟨hh, hi⟩ := Node.machineOf_of_knows hw.proper ⟨"u", by decide, known, hx⟩ h
    have hd := (Node.resolved hw.proper h).document
    rw [hh, hi, host, id] at hd
    rw [hd] at free
    exact ⟨hh.trans host, hi.trans id, of_decide_eq_true free⟩
  obtain ⟨undone, refused, -⟩ := World.publication_undone hw { host := "a" } "vol-2" "n"
  have run {α : Type} {p : Attempt α} {u : World Fleet} {a : α}
      (h : (p.execute {} u).1.toOption = some a) : p.Runs {} u (.ok a) (p.execute {} u).2 :=
    Attempt.runs_of_execute (Prod.ext (ok_of_toOption h) rfl)
  constructor
  · obtain ⟨m', ⟨u, hm', -⟩, hd, rest⟩ := undone {} {} c _ _ (run hc) (run ha)
    obtain ⟨hh, hi, hb⟩ := pinned hm'
    obtain ⟨d, -, rfl, before, after⟩ := rest hb
    rw [hh, hi] at hd
    rw [hh] at before after
    exact ⟨m'.info, d, hd, ok_of_toOption hc, before, after⟩
  · exact (refused {} m _ s _ (run hm) (run hs) (pinned (run hm)).2.2).1

end Solo

end StorageDriver
