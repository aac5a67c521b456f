import StorageDriver.Proofs.Attachments
import StorageDriver.Proofs.Histories

namespace StorageDriver

namespace VmInfo

def backing (i : VmInfo) : List String := i.disks.map (·.volume.id)

theorem backs_iff {i : VmInfo} {id : String} : i.Backs id ↔ id ∈ i.backing := List.mem_map.symm

theorem backing_withDisk (i : VmInfo) (u : VolumeInfo) :
    (i.withDisk u).backing = i.backing ++ [u.id] :=
  List.map_append

theorem backing_withoutDisk (i : VmInfo) (id : String) :
    (i.withoutDisk id).backing.Sublist i.backing :=
  List.filter_sublist.map _

theorem backing_kept (i : VmInfo) : (Plane.kept i).backing = i.backing := by
  suffices ∀ n ds, (Plane.assignScsi n ds).map (·.volume.id) = ds.map (·.volume.id) from this 0 _
  intro n ds
  induction ds generalizing n with
  | nil => rfl
  | cons d ds ih =>
    rw [Plane.assignScsi, List.map_cons, List.map_cons, ih]
    split <;> rfl

end VmInfo

/-- Nothing is attached that is attached already. -/
def Work.IsFirst : Work → Prop
  | attach m id => ¬ m.info.Backs id
  | _ => True

namespace World

/-- No machine has two disks for one volume. -/
def BackedOnce (w : World Fleet) : Prop :=
  ∀ host id i, w.document host id = some i → i.backing.Nodup

/-- The machine `id` has two disks or more for a volume. -/
def BackedTwice (w : World Fleet) (host id volume : String) : Prop :=
  ∃ i, w.document host id = some i ∧ 1 < i.backing.count volume

theorem diskLaw_once : DiskLaw Work.IsFirst fun ds => (ds.map (·.volume.id)).Nodup where
  nil := .nil
  attach m u hu hn := by
    show (Plane.kept (m.info.withDisk u)).backing.Nodup
    rw [VmInfo.backing_kept, VmInfo.backing_withDisk, List.nodup_append]
    refine ⟨hn, List.pairwise_singleton _ _, fun id hi id' hi' he => hu (VmInfo.backs_iff.2 ?_)⟩
    obtain rfl := List.mem_singleton.1 hi'
    exact he ▸ hi
  detach m id _ hn := by
    show (Plane.kept (m.info.withoutDisk id)).backing.Nodup
    rw [VmInfo.backing_kept]
    exact hn.sublist (m.info.backing_withoutDisk id)

theorem Puts.backedTwice {w w' : World Fleet} {host id : String} {i : VmInfo} {u : VolumeInfo}
    (h : w.Puts host (Plane.kept (i.withDisk u)) w') (hu : u.id = id) (hi : i.Backs id) :
    w'.BackedTwice host i.id id := by
  refine ⟨_, h.document, ?_⟩
  have hc := List.count_pos_iff.2 (VmInfo.backs_iff.1 hi)
  rw [VmInfo.backing_kept, VmInfo.backing_withDisk, List.count_append, hu,
    List.count_singleton_self]
  exact Nat.succ_lt_succ hc

/-- A volume backs one disk of a machine as long as none is published again. One that is published
again to the machine that has it backs two, unless the call fails and changes nothing. -/
theorem backed_once (hosts : List String) :
    (∀ w ms, History hosts Work.IsFirst w ms → w.BackedOnce) ∧
    ∀ w ms, History hosts (fun _ => True) w ms → ∀ env v id node,
      (∀ r w', (Csi.publish v id node).Runs env w r w' →
        Csi.Fruitless w r w' ∨ ∃ m, Csi.RunsOn env w node (Csi.attaching v id) m r w') ∧
      ∀ m r w', Csi.RunsOn env w node (Csi.attaching v id) m r w' →
        m.host = v.host → m.info.Backs id →
        (w'.document = w.document ∨ w'.BackedTwice v.host m.id id) ∧
          ∀ c, r = .ok c → w'.BackedTwice v.host m.id id := by
  refine ⟨fun w ms h host id i hd => ?_, fun w ms h env v id node =>
    ⟨fun r w' hr => Csi.fruitless_or_runsOn h.proper hr, fun m r w' hr hh hb => ?_⟩⟩
  · obtain ⟨-, hw, -⟩ := h.holds diskLaw_once
    exact (hw.document hd).2
  · obtain ⟨u, hm, hr⟩ := hr
    have found := Node.resolved h.proper hm
    obtain ⟨x, ha, hc⟩ := Csi.attach_of_attaching hr
    obtain ⟨⟨e, rfl⟩, hn⟩ | ⟨b, hu, hp, -⟩ := v.attached found.proper (hh ▸ found.isSome) ha
    · refine ⟨.inl (hn.document.trans found.owns.document), fun c hr => ?_⟩
      obtain ⟨m', d, he, -⟩ := hc c hr
      cases he
    · have twice := hp.backedTwice (Fleet.id_of_volume? hu) hb
      exact ⟨.inr twice, fun _ _ => twice⟩

end World

namespace Solo

instance (i : VmInfo) (id : String) : Decidable (i.Backs id) :=
  inferInstanceAs (Decidable (∃ d ∈ i.disks, d.volume.id = id))

instance : DecidablePred Work.IsFirst
  | .attach m id => inferInstanceAs (Decidable (¬ m.info.Backs id))
  | .create _ | .delete _ _ | .expand _ _ | .detach _ _ => .isTrue trivial

theorem history_published {may : Work → Prop} (h : ∀ o, o.IsFirst → may o) :
    World.History ["a"] may published [] := by
  have hf : (((Csi.Operation.publish "vol-2" "n").plan.execute {} world).1.toOption.all
      fun p => p.work.IsFirst) = true := by decide +kernel
  have hw := history may
  unfold published
  generalize world = w at *
  refine hw.executed {} { host := "a" } (.publish "vol-2" "n") fun p u hp => h _ ?_
  rw [hp] at hf
  exact of_decide_eq_true hf

theorem backed_once_again :
    published.BackedOnce ∧ (publish published).1.toOption.isSome = true ∧
      (publish published).2.BackedTwice "a" "vm-1" "vol-2" := by
  obtain ⟨first, again⟩ := World.backed_once ["a"]
  have once := first _ _ (history_published fun _ ho => ho)
  have hw := history_published fun _ _ => trivial
  have hc : (publish published).1.toOption.isSome = true := by decide +kernel
  have hm : (((Node.machineOf "n").execute {} published).1.toOption.any fun m =>
      m.host = "a" ∧ m.id = "vm-1" ∧ m.info.Backs "vol-2") = true := by decide +kernel
  generalize published = w at *
  obtain ⟨c, hs⟩ := Option.isSome_iff_exists.1 hc
  have called : publish w = (.ok c, (publish w).2) := Prod.ext (ok_of_toOption hs) rfl
  obtain ⟨m, u, found, attached⟩ := Csi.found_of_execute called
  rw [found] at hm
  obtain ⟨hh, hi, hb⟩ := of_decide_eq_true hm
  have ht := (again _ _ hw {} { host := "a" } "vol-2" "n").2 m _ _
    ⟨u, Attempt.runs_of_execute found, Attempt.runs_of_execute attached⟩ hh hb
  exact ⟨once, hc, hi ▸ ht.2 c rfl⟩

end Solo

end StorageDriver
