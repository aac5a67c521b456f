import StorageDriver.Proofs.Estates
import StorageDriver.Proofs.Tables

namespace StorageDriver

namespace Plane

variable (p : Plane)

theorem obey_estate (c : Command) :
    (p.estate.obey c).1 = (p.obey c).1 ∧ (p.estate.obey c).2.estate = (p.obey c).2.estate := by
  cases c with
  | putMachine doc =>
    by_cases h : p.machines.any (·.id = doc.id) = true
    · have he : p.estate.machines.any (·.id = doc.id) = true := h
      simp only [obey, if_pos h, if_pos he]
      exact ⟨rfl, rfl⟩
    · have he : ¬ p.estate.machines.any (·.id = doc.id) = true := h
      simp only [obey, if_neg h, if_neg he, true_and]
      rfl
  | createVolume order =>
    simp only [obey]
    cases Double.ofText order.size.toList <;> exact ⟨rfl, rfl⟩
  | deleteVolume id wipe =>
    by_cases h : p.volumes.any (·.id = id) = true
    · have he : p.estate.volumes.any (·.id = id) = true := h
      simp only [obey, if_pos h, if_pos he]
      exact ⟨rfl, rfl⟩
    · have he : ¬ p.estate.volumes.any (·.id = id) = true := h
      simp only [obey, if_neg h, if_neg he, true_and]
      rfl
  | putVolume doc =>
    by_cases h : p.volumes.any (·.id = doc.id) = true
    · have he : p.estate.volumes.any (·.id = doc.id) = true := h
      simp only [obey, if_pos h, if_pos he]
      exact ⟨rfl, rfl⟩
    · have he : ¬ p.estate.volumes.any (·.id = doc.id) = true := h
      simp only [obey, if_neg h, if_neg he, true_and]
      rfl

variable {p} {q : Plane}

theorem obey_of_estate (h : q.estate = p.estate) (c : Command) :
    (q.obey c).1 = (p.obey c).1 ∧ (q.obey c).2.estate = (p.obey c).2.estate := by
  have hq := q.obey_estate c
  have hp := p.obey_estate c
  rw [h] at hq
  exact ⟨hq.1.symm.trans hp.1, hq.2.symm.trans hp.2⟩

end Plane

namespace World

variable {α : Type} {env : Setting} {w w' : World Fleet} {p : Attempt α} {r : Except Error α}

theorem proper_run {p : Proc α} {a : α} (hw : w.Proper) (h : p.Runs env w a w') : w'.Proper := by
  induction h with
  | done a w => exact hw
  | act hx _ ih => exact ih (hx.proper hw)

theorem proper_of_runs (hw : w.Proper) (h : p.Runs env w r w') : w'.Proper := proper_run hw h

theorem proper_of_execute (hw : w.Proper) (h : p.execute env w = (r, w')) : w'.Proper :=
  proper_of_runs hw (Attempt.runs_of_execute h)

end World

def Fleet.volume? (f : Fleet) (host id : String) : Option VolumeInfo :=
  (f.volumes? host).bind (·.find? (·.id = id))

theorem Fleet.volume?_of_estates {f g : Fleet} (h : g.estates = f.estates) :
    g.volume? = f.volume? := by
  funext host id
  rw [volume?, volume?, volumes?_of_estates h]

theorem Fleet.id_of_volume? {f : Fleet} {host id : String} {u : VolumeInfo}
    (h : f.volume? host id = some u) : u.id = id := by
  obtain ⟨us, -, hu⟩ := Option.bind_eq_some_iff.1 h
  simpa using List.find?_some hu

namespace Attempt

variable {env : Setting} {w w' : World Fleet} {s : Session}

theorem answered {q : Request} {a : q.Reply} (h : (ask s q).execute env w = (.ok a, w')) :
    ∃ p, w.net.planes.get? s.host = some p ∧ ((p.start q).2.finish q).1 = .ok a := by
  have hr : ((Network.ask s q).run.run w.net).1 = .ok a := congrArg Prod.fst h
  cases hp : w.net.planes.get? s.host with
  | none =>
    rw [(Network.run_ask_none (q := q) hp).1] at hr
    cases hr
  | some p =>
    rw [(Network.run_ask_some (q := q) hp).1] at hr
    exact ⟨p, rfl, hr⟩

theorem volume_of_ask {id : String} {u : VolumeInfo}
    (h : (ask s (.volume id)).execute env w = (.ok u, w')) :
    w.net.planes.volume? s.host id = some u := by
  obtain ⟨p, hp, ha⟩ := answered h
  have hv : (p.volume? id).elim (.error (Plane.notFound "volume" id)) Except.ok = .ok u := ha
  rw [Fleet.volume?, Fleet.volumes?, hp, Option.map_some, Option.bind_some]
  cases hu : p.volume? id with
  | none =>
    rw [hu] at hv
    cases hv
  | some u' =>
    rw [hu] at hv
    exact hu.trans (congrArg some (Except.ok.inj hv))

theorem given {w₀ : World Fleet} (h₀ : w₀.Owns w) {c : Command} {r : Except Error Task}
    (h : (ask s (.command c)).execute env w = (r, w')) :
    (∃ e, r = .error e) ∧ w₀.Owns w' ∨
      ∃ p, w₀.net.planes.get? s.host = some p ∧ r = (p.obey c).1 ∧
        w'.net.planes.estates = Fleet.estates (w₀.net.planes.put s.host (p.obey c).2) := by
  have hr : ((Network.ask s (.command c)).run.run w.net).1 = r := congrArg Prod.fst h
  have hn : ((Network.ask s (.command c)).run.run w.net).2 = w'.net := congrArg (·.2.net) h
  cases hq : w.net.planes.get? s.host with
  | none =>
    obtain ⟨he, hw⟩ := Network.run_ask_none (q := .command c) hq
    rw [hn] at hw
    exact .inl ⟨⟨_, hr.symm.trans he⟩, (congrArg Fleet.estates hw).trans h₀⟩
  | some q =>
    obtain ⟨hx, hw⟩ := Network.run_ask_some (q := .command c) hq
    obtain ⟨p, hp, he⟩ := Fleet.exists_of_estates h₀.symm hq
    obtain ⟨ho, he⟩ := Plane.obey_of_estate he c
    refine .inr ⟨p, hp, (hr.symm.trans hx).trans ho.symm, ?_⟩
    rw [hn] at hw
    rw [hw, Table.put_put]
    exact Fleet.estates_put_congr h₀ he.symm

end Attempt

namespace Work

variable {env : Setting} {v : Volumes} {o : Work} {w w' : World Fleet} {t : Session} {c : Command}

/-- The command that work comes down to where `f` are the planes. -/
def Orders (f : Fleet) (host : String) : Work → Command → Prop
  | create spec, c => c = .createVolume spec.order
  | delete id wipe, c => c = .deleteVolume id wipe
  | expand id capacity, c =>
    ∃ u, f.volume? host id = some u ∧ c = .putVolume { u with size := .ofNat capacity }
  | attach m id, c => ∃ u, f.volume? host id = some u ∧ c = .putMachine (m.info.withDisk u)
  | detach m id, c => (∃ d ∈ m.info.disks, d.id = id) ∧ c = .putMachine (m.info.withoutDisk id)

theorem Orders.of_owns {host : String} (h : o.Orders w'.net.planes host c) (hw : w.Owns w') :
    o.Orders w.net.planes host c := by
  have hv := Fleet.volume?_of_estates hw
  cases o with
  | expand id capacity | attach m id =>
    obtain ⟨u, hu, hc⟩ := h
    exact ⟨u, hv ▸ hu, hc⟩
  | _ => exact h

theorem orders_of_order (h : (o.order t).execute env w = (.ok c, w')) :
    o.Orders w.net.planes t.host c := by
  cases o with
  | create spec | delete id wipe => exact (Except.ok.inj (Prod.mk.inj h).1).symm
  | expand id capacity | attach m id =>
    obtain ⟨u, w'', hu, hc⟩ := Attempt.ok_of_execute_bind h
    exact ⟨u, Attempt.volume_of_ask hu, (Except.ok.inj (Prod.mk.inj hc).1).symm⟩
  | detach m id =>
    simp only [order] at h
    split at h
    · cases h
    · rename_i hd
      exact ⟨by simpa using hd, (Except.ok.inj (Prod.mk.inj h).1).symm⟩

theorem orders_of_prepare (hw : w.net.Proper)
    (h : (o.prepare v).execute env w = (.ok (t, c), w')) :
    t.host = v.host ∧ o.Orders w.net.planes v.host c := by
  have hl := looks_prepare (f := w.net.planes) env v o w ⟨hw, fun _ => rfl⟩
  rw [h] at hl
  have ht : t.host = v.host := hl.ok _ rfl
  obtain ⟨_, u₁, h₁, h⟩ := Attempt.ok_of_execute_bind h
  obtain ⟨s, u₂, h₂, h⟩ := Attempt.ok_of_execute_bind h
  obtain ⟨c', u₃, h₃, h⟩ := Attempt.ok_of_execute_bind h
  obtain ⟨rfl, rfl⟩ := Prod.mk.inj (Except.ok.inj (Prod.mk.inj h).1)
  refine ⟨ht, ?_⟩
  rw [← ht]
  exact ((orders_of_order h₃).of_owns ((Attempt.enquires_session v.host true).owns h₂)).of_owns
    (o.enquires_check.owns h₁)

/-- Work that is done changes nothing, or one plane as its command says. -/
theorem course (hw : w.Proper) {r : Except Error o.Answer}
    (h : (o.attempt v).execute env w = (r, w')) :
    (∃ e, r = .error e) ∧ w.Owns w' ∨
      ∃ c p, o.Orders w.net.planes v.host c ∧ w.net.planes.get? v.host = some p ∧
        w'.net.planes.estates = Fleet.estates (w.net.planes.put v.host (p.obey c).2) ∧
        (∀ e, (p.obey c).1 = .error e → r = .error e) ∧
        ∀ a, r = .ok a → ∃ t u, t.host = v.host ∧ u.Proper ∧ u.Owns w' ∧
          (o.conclude t).execute env u = (.ok a, w') := by
  rw [attempt_eq] at h
  obtain ⟨⟨t, c⟩, u, hp, h⟩ | ⟨e, hp, rfl⟩ := Attempt.of_execute_bind h
  · have hu := (o.enquires_prepare v).owns hp
    have pu := World.proper_of_execute hw hp
    obtain ⟨ht, ho⟩ := orders_of_prepare hw.net hp
    -- The plane owns what it owned in `w`, so it obeys as it would have done there.
    obtain ⟨task, u', hg, h⟩ | ⟨e, hg, rfl⟩ := Attempt.of_execute_bind h
    · obtain ⟨⟨e, he⟩, -⟩ | ⟨p, hp, hr, hn⟩ := Attempt.given hu hg
      · cases he
      have rest := (v.poller.enquires_wait t task).bind fun _ => o.enquires_conclude t
      rw [ht] at hp hn
      refine .inr ⟨c, p, ho, hp, Eq.trans (rest.owns h) hn, fun e he => ?_, fun a ha => ?_⟩
      · rw [he] at hr
        cases hr
      · subst ha
        obtain ⟨_, u'', hx, h⟩ := Attempt.ok_of_execute_bind h
        have pu'' := World.proper_of_execute (World.proper_of_execute pu hg) hx
        exact ⟨t, u'', ht, pu'', (o.enquires_conclude t).owns h, h⟩
    · obtain ⟨-, hn⟩ | ⟨p, hp, hr, hn⟩ := Attempt.given hu hg
      · exact .inl ⟨⟨e, rfl⟩, hn⟩
      rw [ht] at hp hn
      refine .inr ⟨c, p, ho, hp, hn, fun e' he => ?_, nofun⟩
      exact congrArg _ (Except.error.inj (hr.trans he))
  · exact .inl ⟨⟨e, rfl⟩, (o.enquires_prepare v).owns hp⟩

theorem plane_of_ok (hw : w.Proper) {a : o.Answer}
    (h : (o.attempt v).execute env w = (.ok a, w')) : ∃ p, w.net.planes.get? v.host = some p := by
  obtain ⟨⟨e, he⟩, -⟩ | ⟨-, p, -, hp, -⟩ := course hw h
  · cases he
  · exact ⟨p, hp⟩

end Work

end StorageDriver
