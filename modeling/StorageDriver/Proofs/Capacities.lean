import Mathlib.Order.Bounds.Basic
import StorageDriver.Proofs.Expansions

namespace StorageDriver

namespace Word

def ofNat? (n : Nat) : Option UInt64 := if n < UInt64.size then some (.ofNat n) else none

def add? (a b : UInt64) : Option UInt64 := ofNat? (a.toNat + b.toNat)

def mul? (a b : UInt64) : Option UInt64 := ofNat? (a.toNat * b.toNat)

/-- The quotient, and one more if a rest is left. -/
def divUp? (a b : UInt64) : Option UInt64 := if a % b = 0 then some (a / b) else add? (a / b) 1

theorem exists_ofNat? {n : Nat} (h : n < UInt64.size) : ∃ a, ofNat? n = some a ∧ a.toNat = n :=
  ⟨.ofNat n, if_pos h, UInt64.toNat_ofNat_of_lt h⟩

theorem exists_divUp? (a : UInt64) {b : UInt64} (hb : 0 < b.toNat) :
    ∃ c, divUp? a b = some c ∧ c.toNat = roundUp a.toNat b.toNat := by
  have split := Nat.div_add_mod a.toNat b.toNat
  have rest := Nat.mod_lt a.toNat hb
  have none_left : a % b = 0 ↔ a.toNat % b.toNat = 0 := by
    rw [← UInt64.toNat_inj, UInt64.toNat_mod, UInt64.toNat_zero]
  unfold divUp?
  by_cases hr : a % b = 0
  · refine ⟨a / b, if_pos hr, ?_⟩
    rw [none_left] at hr
    rw [UInt64.toNat_div, roundUp]
    refine (Nat.div_eq_of_lt_le ?_ ?_).symm
    · rw [Nat.mul_comm]
      omega
    · rw [Nat.succ_mul, Nat.mul_comm]
      omega
  · rw [none_left] at hr
    have up : roundUp a.toNat b.toNat = (a / b).toNat + (1 : UInt64).toNat := by
      rw [UInt64.toNat_div, roundUp]
      refine Nat.div_eq_of_lt_le ?_ ?_
      · rw [UInt64.toNat_one, Nat.succ_mul, Nat.mul_comm]
        omega
      · rw [UInt64.toNat_one, Nat.succ_mul, Nat.succ_mul, Nat.mul_comm]
        omega
    have small : roundUp a.toNat b.toNat < UInt64.size := by
      refine Nat.lt_of_le_of_lt ((roundUp_le_iff hb).2 ?_) a.toNat_lt_size
      exact Nat.le_mul_of_pos_right _ hb
    rw [if_neg (mt none_left.1 hr)]
    obtain ⟨c, hc, he⟩ := exists_ofNat? small
    exact ⟨c, by rw [add?, ← up, hc], he⟩

end Word

namespace Csi

section

variable {bytes : Nat}

/-- As many GiB as hold `bytes`, and the bytes of so many GiB, counted in words. -/
def count? (bytes : UInt64) : Option (UInt64 × UInt64) := do
  let gibs ← Word.divUp? bytes (.ofNat gib)
  return (gibs, ← Word.mul? gibs (.ofNat gib))

/-- The bytes that are asked for, ten GiB if none are. -/
def demand? (capacity : UInt64) : Option UInt64 :=
  if capacity = 0 then Word.mul? 10 (.ofNat gib) else some capacity

/-- Every step of the count has room in a word. -/
def Counts (words : Option (UInt64 × UInt64)) (gibs : Nat) : Prop :=
  ∃ a b, words = some (a, b) ∧ a.toNat = gibs ∧ b.toNat = gibs * gib

theorem counts (small : bytes ≤ ceiling) :
    Counts (count? (.ofNat bytes)) (roundUp bytes gib) := by
  have few := (roundUp_bounds small).1
  have hb : (UInt64.ofNat bytes).toNat = bytes :=
    UInt64.toNat_ofNat_of_lt (Nat.lt_of_le_of_lt small (by decide))
  have hg : (UInt64.ofNat gib).toNat = gib := by decide
  obtain ⟨a, ha, ea⟩ := Word.exists_divUp? (.ofNat bytes) (b := .ofNat gib) (by decide)
  rw [hb, hg] at ea
  have room : a.toNat * (UInt64.ofNat gib).toNat < UInt64.size := by
    rw [ea, hg]
    exact Nat.lt_of_le_of_lt (Nat.mul_le_mul_right gib few) (by decide)
  obtain ⟨b, hm, eb⟩ := Word.exists_ofNat? room
  refine ⟨a, b, ?_, ea, by rw [eb, ea, hg]⟩
  rw [count?, ha, Option.bind_eq_bind, Option.bind_some, Word.mul?, hm]
  rfl

theorem isLeast_roundUp (bytes : Nat) :
    IsLeast {n | gib ∣ n ∧ bytes ≤ n} (roundUp bytes gib * gib) := by
  have hg : 0 < gib := by decide
  refine ⟨⟨Nat.dvd_mul_left gib _, (roundUp_le_iff hg).1 (Nat.le_refl _)⟩, ?_⟩
  rintro n ⟨⟨k, rfl⟩, hn⟩
  rw [Nat.mul_comm gib k] at hn ⊢
  exact Nat.mul_le_mul_right gib ((roundUp_le_iff hg).2 hn)

theorem holds_roundUp (small : bytes ≤ ceiling) {u : VolumeInfo}
    (hu : u.size = .ofNat (roundUp bytes gib)) : u.Holds (roundUp bytes gib * gib) :=
  VolumeInfo.holds_of_size hu
    (Nat.lt_of_le_of_lt (Nat.mul_le_mul_right gib (roundUp_bounds small).1) (by decide))

end

namespace CreateRequest

def bytes (r : CreateRequest) : Nat := if r.capacity = 0 then 10 * gib else r.capacity

theorem bytes_le {r : CreateRequest} (small : r.capacity ≤ ceiling) : r.bytes ≤ ceiling := by
  unfold bytes
  split
  · decide
  · exact small

theorem demand_eq {r : CreateRequest} (small : r.capacity ≤ ceiling) :
    demand? (.ofNat r.capacity) = some (.ofNat r.bytes) := by
  have hc : (UInt64.ofNat r.capacity).toNat = r.capacity :=
    UInt64.toNat_ofNat_of_lt (Nat.lt_of_le_of_lt small (by decide))
  have zero : UInt64.ofNat r.capacity = 0 ↔ r.capacity = 0 := by
    rw [← UInt64.toNat_inj, hc, UInt64.toNat_zero]
  unfold demand? bytes
  by_cases h : r.capacity = 0
  · rw [if_pos (zero.2 h), if_pos h]
    decide +kernel
  · rw [if_neg (mt zero.1 h), if_neg h]

end CreateRequest

variable {env : Setting} {v : Volumes} {w w' : World Fleet}

theorem execute_create (hw : w.Proper) {r : CreateRequest} {x : Except Error Volume}
    (h : (create v r).execute env w = (x, w')) :
    (∃ e, x = .error e) ∧ w.Owns w' ∨
      (∃ us made, w.net.planes.volumes? v.host = some us ∧
        w'.net.planes.volumes? v.host = some (us ++ [made]) ∧ made.size = .ofNat r.gibs) ∧
        ∀ a, x = .ok a → a.capacity = r.gibs * gib := by
  unfold create at h
  rw [Operation.execute_need_bind] at h
  split at h
  · obtain ⟨rfl, rfl⟩ := Prod.mk.inj h
    exact .inl ⟨⟨_, rfl⟩, rfl⟩
  split at h
  · obtain ⟨rfl, rfl⟩ := Prod.mk.inj h
    exact .inl ⟨⟨_, rfl⟩, rfl⟩
  · obtain ⟨rfl, rfl⟩ := Prod.mk.inj h
    exact .inl ⟨⟨_, rfl⟩, rfl⟩
  rename_i dataStore _ _
  -- What becomes of the plane does not depend on whether the task is seen to finish.
  have work {y : Except Error String} {u : World Fleet}
      (hx : (v.create (r.spec dataStore)).execute env w = (y, u)) :
      (∃ e, y = .error e) ∧ w.Owns u ∨
        ∃ us made, w.net.planes.volumes? v.host = some us ∧
          u.net.planes.volumes? v.host = some (us ++ [made]) ∧ made.size = .ofNat r.gibs := by
    obtain same | ⟨c, p, rfl, hp, hn, -⟩ := Work.course hw (o := .create (r.spec dataStore)) hx
    · exact .inl same
    · refine .inr ⟨p.volumes, p.made (r.spec dataStore), ?_, ?_, rfl⟩
      · rw [Fleet.volumes?, hp, Option.map_some]
      · rw [Fleet.volumes?_of_estates hn, Fleet.volumes?, Table.get?_put, if_pos rfl,
          Option.map_some, p.volumes_create]
  obtain ⟨id, u, hx, h⟩ | ⟨e, hx, rfl⟩ := Attempt.of_execute_bind h
  · obtain ⟨rfl, rfl⟩ := Prod.mk.inj h
    obtain ⟨⟨e, he⟩, -⟩ | made := work hx
    · cases he
    · exact .inr ⟨made, fun a ha => Except.ok.inj ha ▸ rfl⟩
  · exact (work hx).imp (fun same => ⟨⟨e, rfl⟩, same.2⟩) fun made => ⟨made, fun _ ha => by cases ha⟩

/-- A capacity that is asked for is given in as few GiB as hold it, ten if a new volume is asked for
without one. No step of the count leaves 64 bits, the text that tells the plane how many they are is
read as so many, and for a volume that was made or changed the plane has recorded exactly what is
answered. -/
theorem capacities (hw : w.Proper) (env : Setting) (v : Volumes) :
    (∀ r : CreateRequest, r.capacity ≤ ceiling →
      Counts ((demand? (.ofNat r.capacity)).bind count?) r.gibs ∧
      (r.capacity = 0 → r.gibs * gib = 10 * gib) ∧
      (r.capacity ≠ 0 → IsLeast {n | gib ∣ n ∧ r.capacity ≤ n} (r.gibs * gib)) ∧
      (∀ dataStore, Double.ofText (r.spec dataStore).order.size.toList = .ok (.ofNat r.gibs)) ∧
      ∀ x w', (create v r).execute env w = (x, w') →
        (∃ e, x = .error e) ∧ w.Owns w' ∨
          (∃ us made, w.net.planes.volumes? v.host = some us ∧
            w'.net.planes.volumes? v.host = some (us ++ [made]) ∧ made.Holds (r.gibs * gib)) ∧
            ∀ a, x = .ok a → a.capacity = r.gibs * gib) ∧
    ∀ g : Growth, g.bytes ≤ ceiling →
      Counts (count? (.ofNat g.bytes)) g.gibs ∧
      IsLeast {n | gib ∣ n ∧ g.bytes ≤ n} (g.gibs * gib) ∧
      ∀ x w', (g.attempt v).execute env w = (x, w') →
        (∃ e, x = .error e) ∧ w.Owns w' ∨
          (∃ u, w.volume? v.host g.id = some u ∧ w'.volume? v.host g.id = some (g.sized u) ∧
            (g.sized u).Holds (g.gibs * gib)) ∧
            ∀ a, x = .ok a → a.capacity = g.gibs * gib := by
  constructor
  · intro r small
    have few := r.bytes_le small
    refine ⟨?_, fun unasked => ?_, fun asked => ?_, fun _ => Double.ofText_toString r.gibs,
      fun x w' h => ?_⟩
    · rw [r.demand_eq small, Option.bind_some]
      exact counts few
    · rw [CreateRequest.gibs, if_pos unasked]
      decide
    · rw [CreateRequest.gibs, if_neg asked]
      exact isLeast_roundUp r.capacity
    · obtain same | ⟨⟨us, made, hus, hv, size⟩, answer⟩ := execute_create hw h
      · exact .inl same
      · exact .inr ⟨⟨us, made, hus, hv, holds_roundUp few size⟩, answer⟩
  · intro g small
    refine ⟨counts small, isLeast_roundUp g.bytes, fun x w' h => ?_⟩
    obtain same | ⟨⟨u, hu, hs⟩, answer⟩ := g.execute_attempt hw h
    · exact .inl same
    · exact .inr ⟨⟨u, hu, (hs _ _).trans (if_pos ⟨rfl, rfl⟩), holds_roundUp small rfl⟩, answer⟩

end Csi

namespace Solo

def full : Csi.CreateRequest where
  name := "log"
  capacity := Csi.ceiling
  parameters := [("datastoreurl", "ds")]

def filling : Csi.Growth where
  id := "vol-2"
  bytes := Csi.ceiling - gib + 1

theorem capacities_full :
    (∃ a w', (Csi.create volumes full).execute {} world = (.ok a, w') ∧ a.capacity = Csi.ceiling ∧
      ∃ us made, w'.net.planes.volumes? "a" = some (us ++ [made]) ∧ made.Holds Csi.ceiling) ∧
    ∃ a w', (filling.attempt volumes).execute {} world = (.ok a, w') ∧ a.capacity = Csi.ceiling ∧
      ∃ u, w'.volume? "a" "vol-2" = some u ∧ u.Holds Csi.ceiling := by
  have hw := (history fun _ => True).proper
  have made : ((Csi.create volumes full).execute {} world).1.toOption.isSome = true := by
    decide +kernel
  have grown : ((filling.attempt volumes).execute {} world).1.toOption.isSome = true := by
    decide +kernel
  have created : full.gibs * gib = Csi.ceiling := by decide
  have expanded : filling.gibs * gib = Csi.ceiling := by decide
  generalize world = w at *
  obtain ⟨create, grow⟩ := Csi.capacities hw {} volumes
  constructor
  · obtain ⟨a, ha⟩ := Option.isSome_iff_exists.1 made
    have run : (Csi.create volumes full).execute {} w = (.ok a, _) :=
      Prod.ext (ok_of_toOption ha) rfl
    obtain ⟨⟨e, he⟩, -⟩ | ⟨⟨us, u, -, hv, holds⟩, answer⟩ :=
      (create full (Nat.le_refl _)).2.2.2.2 (.ok a) _ run
    · cases he
    · rw [created] at holds answer
      exact ⟨a, _, run, answer a rfl, us, u, hv, holds⟩
  · obtain ⟨a, ha⟩ := Option.isSome_iff_exists.1 grown
    have run : (filling.attempt volumes).execute {} w = (.ok a, _) :=
      Prod.ext (ok_of_toOption ha) rfl
    obtain ⟨⟨e, he⟩, -⟩ | ⟨⟨u, -, hu, holds⟩, answer⟩ :=
      (grow filling (by decide)).2.2 (.ok a) _ run
    · cases he
    · rw [expanded] at holds answer
      exact ⟨a, _, run, answer a rfl, _, hu, holds⟩

end Solo

end StorageDriver
