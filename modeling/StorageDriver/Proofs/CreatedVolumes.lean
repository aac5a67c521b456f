import Mathlib.Data.List.Nodup
import StorageDriver.Proofs.Histories
import StorageDriver.Proofs.WholeDoubles

namespace StorageDriver

def VolumeInfo.Holds (u : VolumeInfo) (bytes : Nat) : Prop :=
  u.size.negative = false ∧ u.size.isFinite = true ∧ u.size.units * gib = bytes * twoTo 1074

theorem VolumeInfo.holds_of_size {u : VolumeInfo} {n : Nat} (hu : u.size = .ofNat n)
    (h : n * gib < UInt64.size) : u.Holds (n * gib) := by
  have hc : n < twoTo 34 := by
    refine Nat.lt_of_mul_lt_mul_right (a := gib) (Nat.lt_of_lt_of_eq h ?_)
    decide
  have hf : n < twoTo 64 := Nat.lt_trans hc (by decide)
  rw [Holds, hu]
  refine ⟨rfl, decide_eq_true (Double.nearest_lt hf), ?_⟩
  rw [Double.units_ofNat (Nat.lt_trans hc (by decide)), Nat.mul_right_comm]

namespace Plane

def made (p : Plane) (spec : VolumeSpec) : VolumeInfo where
  id := s!"vol-{p.nextId}"
  uuid := s!"vol-{p.nextId}"
  name := spec.name
  size := .ofNat spec.capacity
  dataStore := spec.dataStore
  status := "AVAILABLE"

theorem volumes_create (p : Plane) (spec : VolumeSpec) :
    (p.obey (.createVolume spec.order)).2.volumes = p.volumes ++ [p.made spec] := by
  have hs : Double.ofText spec.order.size.toList = .ok (.ofNat spec.capacity) :=
    Double.ofText_toString spec.capacity
  simp only [obey, hs]
  rfl

theorem made_holds (p : Plane) {spec : VolumeSpec} (h : spec.capacity * gib < UInt64.size) :
    (p.made spec).Holds (spec.capacity * gib) :=
  VolumeInfo.holds_of_size rfl h

end Plane

section

variable {env : Setting} {w w' : World Fleet}

/-- The volume has the name and is in the data store that are asked for. -/
def VolumeSpec.fits (spec : VolumeSpec) (u : VolumeInfo) : Bool :=
  u.dataStore = spec.dataStore && u.name = spec.name

theorem VolumeSpec.find?_fits (spec : VolumeSpec) (us : List VolumeInfo) :
    (us.filter (·.dataStore = spec.dataStore)).find? (·.name = spec.name) = us.find? spec.fits := by
  rw [List.find?_filter]
  exact congrArg (us.find? ·) (funext fun u => by simp [fits])

variable (env) in
theorem VolumeSpec.execute_conclude {spec : VolumeSpec} {s : Session} {us : List VolumeInfo}
    {made : VolumeInfo} (hm : spec.fits made = true)
    (hv : w.net.planes.volumes? s.host = some (us ++ [made])) :
    ∃ w', ((Work.create spec).conclude s).execute env w =
      (.ok ((us.find? spec.fits).getD made).id, w') := by
  obtain ⟨p, hp, volumes⟩ := Option.map_eq_some_iff.1 hv
  have answer : ((Network.ask s (.volumes spec.dataStore)).run.run w.net).1 =
      .ok (p.volumes.filter (·.dataStore = spec.dataStore)) :=
    (Network.run_ask_some (q := .volumes spec.dataStore) hp).1
  have asked : (Attempt.ask s (.volumes spec.dataStore)).execute env w =
      (.ok (p.volumes.filter (·.dataStore = spec.dataStore)), _) := Prod.ext answer rfl
  unfold Work.conclude
  rw [Attempt.execute_bind, asked, volumes]
  dsimp only
  rw [spec.find?_fits, List.find?_append, List.find?_cons_of_pos hm, Option.or_some]
  exact ⟨_, rfl⟩

theorem Plane.fits_made (p : Plane) (spec : VolumeSpec) : spec.fits (p.made spec) = true := by
  simp [VolumeSpec.fits, made]

theorem Volumes.created (hw : w.Proper) {v : Volumes} {spec : VolumeSpec} {id : String}
    (h : (v.create spec).execute env w = (.ok id, w')) :
    ∃ p, w.net.planes.get? v.host = some p ∧
      w'.net.planes.volumes? v.host = some (p.volumes ++ [p.made spec]) ∧
      id = ((p.volumes.find? spec.fits).getD (p.made spec)).id := by
  obtain ⟨⟨e, he⟩, -⟩ | ⟨c, p, rfl, hp, hn, -, hr⟩ := Work.course hw (o := .create spec) h
  · cases he
  obtain ⟨t, u, ht, -, ho, hc⟩ := hr id rfl
  have volumes : w'.net.planes.volumes? v.host = some (p.volumes ++ [p.made spec]) := by
    rw [Fleet.volumes?_of_estates hn, Fleet.volumes?, Table.get?_put, if_pos rfl,
      Option.map_some, p.volumes_create]
  refine ⟨p, hp, volumes, ?_⟩
  -- The list that is searched is that of `w'`: waiting for the task changed no volume.
  rw [Fleet.volumes?_of_estates ho, ← ht] at volumes
  obtain ⟨x, hx⟩ := VolumeSpec.execute_conclude env (p.fits_made spec) volumes
  exact Except.ok.inj (Prod.mk.inj (hc.symm.trans hx)).1

/-- The plane of `host` has the volume that was answered, and it is what was asked for. -/
def World.Provides (w : World Fleet) (host : String) (r : Csi.CreateRequest) (a : Csi.Volume) :
    Prop :=
  ∃ us u, w.net.planes.volumes? host = some us ∧ u ∈ us ∧ u.id = a.id ∧
    r.parameter "datastoreurl" = some u.dataStore ∧ u.name = r.name ∧ u.Holds a.capacity

namespace Csi

def CreateRequest.spec (r : CreateRequest) (dataStore : String) : VolumeSpec where
  name := r.name
  capacity := r.gibs
  dataStore := dataStore

variable {v : Volumes} {r : CreateRequest} {a : Volume}

theorem create_ok (h : (create v r).execute env w = (.ok a, w')) :
    ∃ dataStore, r.parameter "datastoreurl" = some dataStore ∧
      (v.create (r.spec dataStore)).execute env w = (.ok a.id, w') ∧
      a.capacity = r.gibs * gib := by
  unfold create at h
  rw [Operation.execute_need_bind] at h
  split at h
  · cases h
  · split at h
    · cases h
    · cases h
    · rename_i dataStore _ hd
      obtain ⟨id, u, hx, h⟩ := Attempt.ok_of_execute_bind h
      obtain ⟨ha, rfl⟩ := Prod.mk.inj h
      obtain rfl := Except.ok.inj ha
      exact ⟨dataStore, hd, hx, rfl⟩

/-- A volume that was asked for is there as it was answered, unless there was one of its name in its
data store before. Then that one is answered, and whether it has the size is up to it. -/
theorem create_provides (hw : w.Proper) (fits : r.gibs * gib < UInt64.size)
    (h : (create v r).execute env w = (.ok a, w')) :
    ∃ dataStore us made, r.parameter "datastoreurl" = some dataStore ∧
      w.net.planes.volumes? v.host = some us ∧
      w'.net.planes.volumes? v.host = some (us ++ [made]) ∧
      a.id = ((us.find? (r.spec dataStore).fits).getD made).id ∧
      ((∀ o, us.find? (r.spec dataStore).fits = some o → o.Holds a.capacity) →
        w'.Provides v.host r a) ∧
      (((us ++ [made]).map (·.id)).Nodup → w'.Provides v.host r a →
        ∀ o, us.find? (r.spec dataStore).fits = some o → o.Holds a.capacity) := by
  obtain ⟨dataStore, hd, hc, ha⟩ := create_ok h
  obtain ⟨p, hp, hv, hi⟩ := v.created hw hc
  have hus : w.net.planes.volumes? v.host = some p.volumes := by
    rw [Fleet.volumes?, hp]
    rfl
  refine ⟨dataStore, p.volumes, p.made (r.spec dataStore), hd, hus, hv, hi, fun ho => ?_,
    fun distinct hw' o ho => ?_⟩
  · cases hf : p.volumes.find? (r.spec dataStore).fits with
    | none =>
      rw [hf] at hi
      refine ⟨_, _, hv, List.mem_append_right _ (List.mem_singleton_self _), hi.symm, hd, rfl, ?_⟩
      rw [ha]
      exact p.made_holds fits
    | some o =>
      rw [hf] at hi
      have named := List.find?_some hf
      simp only [VolumeSpec.fits, Bool.and_eq_true, decide_eq_true_eq] at named
      exact ⟨_, o, hv, List.mem_append_left _ (List.mem_of_find?_eq_some hf), hi.symm,
        named.1 ▸ hd, named.2, ho o hf⟩
  · rw [ho] at hi
    obtain ⟨us, u, hus, hu, hui, -, -, holds⟩ := hw'
    obtain rfl := Option.some.inj (hv.symm.trans hus)
    have here := List.mem_append_left [p.made (r.spec dataStore)] (List.mem_of_find?_eq_some ho)
    obtain rfl := List.inj_on_of_nodup_map distinct hu here (hui.trans hi)
    exact holds

end Csi

end

namespace Solo

instance (u : VolumeInfo) (bytes : Nat) : Decidable (u.Holds bytes) :=
  inferInstanceAs (Decidable (_ ∧ _ ∧ _))

def request (name : String) : Csi.CreateRequest where
  name := name
  capacity := 5 * gib
  parameters := [("datastoreurl", "ds")]

def create (name : String) (w : World Fleet) : Except Error Csi.Volume × World Fleet :=
  (Csi.create { host := "a" } (request name)).execute {} w

def older (name : String) (w : World Fleet) : Option VolumeInfo :=
  (w.net.planes.volumes? "a").bind (·.find? ((request name).spec "ds").fits)

theorem create_provides_other :
    (∃ a, (create "pvc" world).1 = .ok a ∧ a.capacity = 5 * gib ∧
      ¬ (create "pvc" world).2.Provides "a" (request "pvc") a) ∧
    ∃ a, (create "log" world).1 = .ok a ∧
      (create "log" world).2.Provides "a" (request "log") a := by
  have hw := (history fun _ => True).proper
  have parameter (name : String) : (request name).parameter "datastoreurl" = some "ds" := rfl
  have pvc : ((create "pvc" world).1.toOption.any fun a => a.capacity = 5 * gib) = true := by
    decide +kernel
  have log : (create "log" world).1.toOption.isSome = true := by decide +kernel
  have small : ((older "pvc" world).any fun o => ¬ o.Holds (5 * gib)) = true := by decide +kernel
  have vacant : older "log" world = none := by decide +kernel
  have distinct : (((create "pvc" world).2.net.planes.volumes? "a").all fun us =>
      (us.map (·.id)).Nodup) = true := by decide +kernel
  generalize world = w at *
  constructor
  · obtain ⟨a, ha, hc⟩ := (Option.any_eq_true _ _).1 pvc
    obtain ⟨o, ho, hs⟩ := (Option.any_eq_true _ _).1 small
    have hc := of_decide_eq_true hc
    refine ⟨a, ok_of_toOption ha, hc, fun provided => of_decide_eq_true hs ?_⟩
    obtain ⟨dataStore, us, made, hd, hus, hv, -, -, only⟩ :=
      Csi.create_provides (r := request "pvc") hw (by decide) (Prod.ext (ok_of_toOption ha) rfl)
    obtain rfl := Option.some.inj ((parameter "pvc").symm.trans hd)
    have found : us.find? ((request "pvc").spec "ds").fits = some o := by
      rwa [older, hus, Option.bind_some] at ho
    have hn := distinct
    rw [create, hv] at hn
    rw [← hc]
    exact only (of_decide_eq_true hn) provided o found
  · obtain ⟨a, ha⟩ := Option.isSome_iff_exists.1 log
    refine ⟨a, ok_of_toOption ha, ?_⟩
    obtain ⟨dataStore, us, made, hd, hus, hv, -, provided, -⟩ :=
      Csi.create_provides (r := request "log") hw (by decide) (Prod.ext (ok_of_toOption ha) rfl)
    obtain rfl := Option.some.inj ((parameter "log").symm.trans hd)
    have none : us.find? ((request "log").spec "ds").fits = none := by
      rwa [older, hus, Option.bind_some] at vacant
    exact provided fun o ho => by
      rw [none] at ho
      cases ho

end Solo

end StorageDriver
