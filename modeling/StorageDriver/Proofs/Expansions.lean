import Mathlib.Data.List.Induction
import StorageDriver.Proofs.CreatedVolumes
import StorageDriver.Proofs.UsedWorlds

namespace StorageDriver

namespace Double

def isNumber (d : Double) : Bool := d.magnitude ≤ infinite

def rank (d : Double) : Int := if d.negative then -d.magnitude else d.magnitude

/-- The order of numbers. A value that is no number comes next to itself only. -/
def AtMost (a b : Double) : Prop := a = b ∨ a.isNumber = true ∧ b.isNumber = true ∧ a.rank ≤ b.rank

theorem AtMost.refl (a : Double) : a.AtMost a := .inl rfl

theorem AtMost.trans {a b c : Double} (hab : a.AtMost b) (hbc : b.AtMost c) : a.AtMost c := by
  obtain rfl | ⟨ha, hb, hr⟩ := hab
  · exact hbc
  · obtain rfl | ⟨-, hc, hs⟩ := hbc
    · exact .inr ⟨ha, hb, hr⟩
    · exact .inr ⟨ha, hc, Int.le_trans hr hs⟩

theorem units_lt_twoTo (a : Double) : a.units < twoTo 52 * twoTo (a.magnitude / twoTo 52) := by
  have hf := Nat.mod_lt a.magnitude (twoTo_pos 52)
  simp only [units]
  split
  · rename_i he
    rw [he]
    exact Nat.lt_of_lt_of_eq hf (Nat.mul_one _).symm
  · rename_i he
    obtain ⟨e, he⟩ := Nat.exists_eq_add_one_of_ne_zero he
    rw [he, Nat.add_sub_cancel, twoTo_add, ← Nat.mul_assoc, Nat.mul_right_comm]
    refine Nat.mul_lt_mul_of_pos_right ?_ (twoTo_pos e)
    rw [show twoTo 1 = 2 from rfl, Nat.mul_two]
    exact Nat.add_lt_add_left hf _

theorem units_lt {a b : Double} (h : a.magnitude < b.magnitude) : a.units < b.units := by
  have he : a.magnitude / twoTo 52 ≤ b.magnitude / twoTo 52 := Nat.div_le_div_right (Nat.le_of_lt h)
  obtain he | he := Nat.lt_or_eq_of_le he
  · refine Nat.lt_of_lt_of_le a.units_lt_twoTo ?_
    have hb : b.magnitude / twoTo 52 ≠ 0 := Nat.ne_of_gt (Nat.zero_lt_of_lt he)
    simp only [units, if_neg hb]
    exact Nat.mul_le_mul (Nat.le_add_right _ _)
      (Nat.pow_le_pow_right (by decide) (Nat.le_sub_one_of_lt he))
  · have hf : a.magnitude % twoTo 52 < b.magnitude % twoTo 52 := by
      have ha := Nat.div_add_mod a.magnitude (twoTo 52)
      have hb := Nat.div_add_mod b.magnitude (twoTo 52)
      rw [he] at ha
      omega
    simp only [units, he]
    split
    · exact hf
    · exact Nat.mul_lt_mul_of_pos_right (Nat.add_lt_add_left hf _) (twoTo_pos _)

theorem units_le_iff {a b : Double} : a.units ≤ b.units ↔ a.magnitude ≤ b.magnitude := by
  refine ⟨fun h => Nat.le_of_not_lt fun hm => Nat.not_lt.2 h (units_lt hm), fun h => ?_⟩
  obtain h | h := Nat.lt_or_eq_of_le h
  · exact Nat.le_of_lt (units_lt h)
  · simp only [units, h, Nat.le_refl]

theorem atMost_ofNat {a : Double} {n : Nat} (h : n < twoTo 53) :
    a.AtMost (ofNat n) ↔
      a.isNumber = true ∧ (a.negative = true ∨ a.units ≤ n * twoTo 1074) := by
  have hn : (ofNat n).isNumber = true :=
    decide_eq_true (Nat.le_of_lt (nearest_lt (Nat.lt_trans h (by decide))))
  have order : (ofNat n).rank = (ofNat n).magnitude := rfl
  rw [← units_ofNat h, units_le_iff]
  constructor
  · rintro (rfl | ⟨ha, -, hr⟩)
    · exact ⟨hn, .inr (Nat.le_refl _)⟩
    · refine ⟨ha, or_iff_not_imp_left.2 fun positive => ?_⟩
      rw [order, rank, if_neg positive] at hr
      exact Int.ofNat_le.1 hr
  · rintro ⟨ha, hu⟩
    refine .inr ⟨ha, hn, ?_⟩
    rw [order, rank]
    split
    · omega
    · exact Int.ofNat_le.2 (hu.resolve_left ‹_›)

end Double

namespace Plane

theorem find?_putVolume (doc : VolumeInfo) {u : VolumeInfo} {us : List VolumeInfo}
    (hu : us.find? (·.id = doc.id) = some u) (id : String) :
    (modifyFirst (·.id = doc.id) (fun _ => doc) us).find? (·.id = id) =
      if id = doc.id then some doc else us.find? (·.id = id) := by
  induction us with
  | nil => cases hu
  | cons v us ih =>
    rw [modifyFirst]
    by_cases hv : v.id = doc.id
    · rw [if_pos (decide_eq_true hv)]
      by_cases hi : id = doc.id
      · rw [if_pos hi, List.find?_cons_of_pos (by simp [hi])]
      · rw [if_neg hi, List.find?_cons_of_neg (by simpa using Ne.symm hi),
          List.find?_cons_of_neg (by simpa [hv] using Ne.symm hi)]
    · rw [List.find?_cons_of_neg (by simpa using hv)] at hu
      rw [if_neg (by simpa using hv), List.find?_cons, List.find?_cons, ih hu]
      by_cases hi : v.id = id
      · rw [decide_eq_true hi]
        exact (if_neg fun h => hv (hi.trans h)).symm
      · rw [decide_eq_false hi]

theorem volumes_putVolume {p : Plane} (doc : VolumeInfo) {u : VolumeInfo}
    (hu : p.volumes.find? (·.id = doc.id) = some u) :
    (p.obey (.putVolume doc)).2.volumes =
      modifyFirst (·.id = doc.id) (fun _ => doc) p.volumes := by
  have any : p.volumes.any (·.id = doc.id) = true :=
    List.any_eq_true.2 ⟨u, List.mem_of_find?_eq_some hu, by simpa using List.find?_some hu⟩
  simp only [obey, if_pos any]
  rfl

end Plane

namespace World

variable {env : Setting} {w w' : World Fleet}

def volume? (w : World Fleet) (host id : String) : Option VolumeInfo :=
  w.net.planes.volume? host id

/-- A volume gets another size, and that is all that becomes of any volume. -/
def Resizes (w : World Fleet) (host id : String) (size : Double) (w' : World Fleet) : Prop :=
  ∃ u, w.volume? host id = some u ∧
    ∀ k i, w'.volume? k i = if k = host ∧ i = id then some { u with size := size }
      else w.volume? k i

theorem resizes (hw : w.Proper) {v : Volumes} {id : String} {n : Nat} {r : Except Error Unit}
    (h : (v.expand id n).execute env w = (r, w')) :
    (∃ e, r = .error e) ∧ w.Owns w' ∨ w.Resizes v.host id (.ofNat n) w' := by
  obtain same | ⟨c, p, ⟨u, hu, rfl⟩, hp, hn, -⟩ := Work.course hw (o := .expand id n) h
  · exact .inl same
  · have hi : u.id = id := Fleet.id_of_volume? hu
    have found : p.volumes.find? (·.id = u.id) = some u := by
      rwa [Fleet.volume?, Fleet.volumes?, hp, Option.map_some, Option.bind_some, ← hi] at hu
    refine .inr ⟨u, hu, fun k i => ?_⟩
    rw [volume?, Fleet.volume?_of_estates hn, Fleet.volume?, Fleet.volumes?, Table.get?_put]
    by_cases hk : v.host = k
    · subst hk
      rw [if_pos rfl, Option.map_some, Option.bind_some,
        Plane.volumes_putVolume { u with size := .ofNat n } found,
        Plane.find?_putVolume { u with size := .ofNat n } found, volume?, Fleet.volume?,
        Fleet.volumes?, hp, hi]
      simp
    · rw [if_neg hk, if_neg fun h => hk h.1.symm]
      rfl

end World

namespace Csi

structure Growth where
  id : String
  bytes : Nat
  capability : Option Capability := none

def Growth.gibs (g : Growth) : Nat := roundUp g.bytes gib

def Growth.sized (g : Growth) (u : VolumeInfo) : VolumeInfo := { u with size := .ofNat g.gibs }

def Growth.attempt (v : Volumes) (g : Growth) : Attempt Expansion :=
  expand v g.id g.bytes g.capability

def grown (env : Setting) (v : Volumes) (w : World Fleet) (gs : List Growth) : World Fleet :=
  gs.foldl (fun w g => ((g.attempt v).execute env w).2) w

theorem grown_append (env : Setting) (v : Volumes) (w : World Fleet) (gs hs : List Growth) :
    grown env v w (gs ++ hs) = grown env v (grown env v w gs) hs := List.foldl_append

variable {env : Setting} {v : Volumes} {w w' : World Fleet} {hosts : List String} {g : Growth}
  {gs : List Growth}

theorem used_grown (hw : w.Used hosts) (gs : List Growth) : (grown env v w gs).Used hosts := by
  induction gs generalizing w with
  | nil => exact hw
  | cons g gs ih =>
    exact ih (.call (o := .expand g.id g.bytes g.capability) (Attempt.runs_execute env _ _) hw)

theorem Growth.execute_attempt (hw : w.Proper) {r : Except Error Expansion}
    (h : (g.attempt v).execute env w = (r, w')) :
    (∃ e, r = .error e) ∧ w.Owns w' ∨
      w.Resizes v.host g.id (.ofNat g.gibs) w' ∧ ∀ a, r = .ok a → a.capacity = g.gibs * gib := by
  unfold attempt expand at h
  rw [Operation.execute_need_bind] at h
  split at h
  · obtain ⟨rfl, rfl⟩ := Prod.mk.inj h
    exact .inl ⟨⟨_, rfl⟩, rfl⟩
  · obtain ⟨a, u, hx, h⟩ | ⟨e, hx, rfl⟩ := Attempt.of_execute_bind h
    · obtain ⟨rfl, rfl⟩ := Prod.mk.inj h
      obtain ⟨⟨e, he⟩, -⟩ | resized := World.resizes hw hx
      · cases he
      · exact .inr ⟨resized, fun b hb => Except.ok.inj hb ▸ rfl⟩
    · exact (World.resizes hw hx).imp (fun same => ⟨⟨e, rfl⟩, same.2⟩) fun resized =>
        ⟨resized, nofun⟩

def ceiling : Nat := (twoTo 34 - 1) * gib

theorem roundUp_bounds {bytes : Nat} (small : bytes ≤ ceiling) :
    roundUp bytes gib ≤ twoTo 34 - 1 ∧ bytes ≤ roundUp bytes gib * gib :=
  ⟨(roundUp_le_iff (by decide)).2 small, (roundUp_le_iff (by decide)).1 (Nat.le_refl _)⟩

theorem Growth.gibs_bounds (small : g.bytes ≤ ceiling) :
    g.gibs ≤ twoTo 34 - 1 ∧ g.bytes ≤ g.gibs * gib :=
  roundUp_bounds small

/-- The call asks for what the volume has, or for more. -/
def Growth.Covers (g : Growth) (u : VolumeInfo) : Prop :=
  u.size.isNumber = true ∧ (u.size.negative = true ∨ u.size.units ≤ g.gibs * twoTo 1074)

theorem Growth.atMost_sized (small : g.bytes ≤ ceiling) (u : VolumeInfo) :
    u.size.AtMost (g.sized u).size ↔ g.Covers u :=
  Double.atMost_ofNat (Nat.lt_of_le_of_lt (gibs_bounds small).1 (by decide))

theorem Growth.volume? (hw : w.Proper) (g : Growth) (env : Setting) (v : Volumes)
    (host id : String) :
    (grown env v w [g]).volume? host id = w.volume? host id ∨ host = v.host ∧ id = g.id ∧
      ∃ x, w.volume? host id = some x ∧ (grown env v w [g]).volume? host id = some (g.sized x) := by
  have run : (g.attempt v).execute env w =
      (((g.attempt v).execute env w).1, grown env v w [g]) := rfl
  obtain ⟨-, same⟩ | ⟨⟨x, hx, hy⟩, -⟩ := execute_attempt hw run
  · exact .inl (congrFun (congrFun (Fleet.volume?_of_estates same) host) id)
  · rw [hy]
    by_cases hi : host = v.host ∧ id = g.id
    · obtain ⟨rfl, rfl⟩ := hi
      exact .inr ⟨rfl, rfl, x, hx, if_pos ⟨rfl, rfl⟩⟩
    · exact .inl (if_neg hi)

/-- No call leaves a volume smaller than it was. -/
def Enlarging (env : Setting) (v : Volumes) (w : World Fleet) (gs : List Growth) : Prop :=
  ∀ before g after, gs = before ++ g :: after → ∀ host id x y,
    (grown env v w before).volume? host id = some x →
    (grown env v w (before ++ [g])).volume? host id = some y → x.size.AtMost y.size

/-- Whoever changes a volume asks for what it has at the time, or for more. -/
def Ample (env : Setting) (v : Volumes) (w : World Fleet) (gs : List Growth) : Prop :=
  ∀ before g after, gs = before ++ g :: after → ∀ x y,
    (grown env v w before).volume? v.host g.id = some x →
    (grown env v w (before ++ [g])).volume? v.host g.id = some y → y ≠ x → g.Covers x

theorem enlarging_iff (hw : w.Used hosts) (small : ∀ g ∈ gs, g.bytes ≤ ceiling) :
    Enlarging env v w gs ↔ Ample env v w gs := by
  have atMost {before : List Growth} {g : Growth} {after : List Growth}
      (hg : gs = before ++ g :: after) (x : VolumeInfo) :
      x.size.AtMost (g.sized x).size ↔ g.Covers x :=
    Growth.atMost_sized (small g (hg ▸ List.mem_append_right _ List.mem_cons_self)) x
  have proper (before : List Growth) : (grown env v w before).Proper :=
    (used_grown hw before).proper
  have step (before : List Growth) (g : Growth) := g.volume? (proper before) env v
  constructor
  · intro enlarging before g after hg x y hx hy changed
    have grows := enlarging before g after hg v.host g.id x y hx hy
    rw [grown_append] at hy
    obtain same | ⟨-, -, x', hx', hy'⟩ := step before g v.host g.id
    · exact absurd (Option.some.inj (hy.symm.trans (same.trans hx))) changed
    · obtain rfl := Option.some.inj (hx.symm.trans hx')
      obtain rfl := Option.some.inj (hy.symm.trans hy')
      exact (atMost hg x).1 grows
  · intro ample before g after hg host id x y hx hy
    -- A volume that stays as it is need not be comparable with anything but itself.
    by_cases changed : y = x
    · exact changed ▸ .refl _
    · have hs := hy
      rw [grown_append] at hs
      obtain same | ⟨rfl, rfl, x', hx', hy'⟩ := step before g host id
      · exact absurd (Option.some.inj (hs.symm.trans (same.trans hx))) changed
      · obtain rfl := Option.some.inj (hx.symm.trans hx')
        obtain rfl := Option.some.inj (hs.symm.trans hy')
        exact (atMost hg x).2 (ample before g after hg x _ hx hy changed)

theorem Enlarging.atMost (hw : w.Used hosts) (h : Enlarging env v w gs) {host id : String}
    {x y : VolumeInfo} (hx : w.volume? host id = some x)
    (hy : (grown env v w gs).volume? host id = some y) : x.size.AtMost y.size := by
  induction gs using List.reverseRecOn generalizing y with
  | nil => exact Option.some.inj (hx.symm.trans hy) ▸ .refl _
  | append_singleton gs g ih =>
    have init : Enlarging env v w gs := fun before d after hd =>
      h before d (after ++ [g]) (by rw [hd, List.append_assoc, List.cons_append])
    have last := h gs g [] rfl host id
    obtain ⟨z, hz⟩ : ∃ z, (grown env v w gs).volume? host id = some z := by
      obtain same | ⟨-, -, z, hz, -⟩ := g.volume? (used_grown hw gs).proper env v host id
      · rw [grown_append] at hy
        exact ⟨y, same.symm.trans hy⟩
      · exact ⟨z, hz⟩
    exact (ih init hz).trans (last z y hz hy)

/-- A call that succeeds gives its volume the size that it answers, which is no less than was asked
for. The sizes never fall, from call to call and over all of them, as long as whoever changes a
volume asks for no less than it has, and only then. -/
theorem expansions (hw : w.Used hosts) (env : Setting) (v : Volumes)
    (small : ∀ g ∈ gs, g.bytes ≤ ceiling) :
    (∀ before g after, gs = before ++ g :: after → ∀ a u,
      (g.attempt v).execute env (grown env v w before) = (.ok a, u) →
      ∃ x y, (grown env v w before).volume? v.host g.id = some x ∧
        u.volume? v.host g.id = some y ∧ y = g.sized x ∧ y.Holds a.capacity ∧
        g.bytes ≤ a.capacity) ∧
      (Enlarging env v w gs ↔ Ample env v w gs) ∧
      (Ample env v w gs → ∀ host id x y, w.volume? host id = some x →
        (grown env v w gs).volume? host id = some y → x.size.AtMost y.size) := by
  refine ⟨fun before g after hg a u h => ?_, enlarging_iff hw small,
    fun ample host id x y => ((enlarging_iff hw small).2 ample).atMost hw⟩
  obtain ⟨few, enough⟩ :=
    Growth.gibs_bounds (small g (hg ▸ List.mem_append_right _ List.mem_cons_self))
  obtain ⟨⟨e, he⟩, -⟩ | ⟨⟨x, hx, hy⟩, answer⟩ :=
    Growth.execute_attempt (used_grown hw before).proper h
  · cases he
  · rw [answer a rfl]
    refine ⟨x, _, hx, (hy _ _).trans (if_pos ⟨rfl, rfl⟩), rfl,
      VolumeInfo.holds_of_size rfl ?_, enough⟩
    exact Nat.lt_of_le_of_lt (Nat.mul_le_mul_right gib few) (by decide)

end Csi

namespace Solo

instance (g : Csi.Growth) (u : VolumeInfo) : Decidable (g.Covers u) :=
  inferInstanceAs (Decidable (_ ∧ _))

def volumes : Volumes where
  host := "a"

def five : Csi.Growth where
  id := "vol-2"
  bytes := 5 * gib

def three : Csi.Growth where
  id := "vol-2"
  bytes := 3 * gib

theorem expansions_solo :
    Csi.Enlarging {} volumes { net := network } [five] ∧
      ¬ Csi.Enlarging {} volumes { net := network } [five, three] := by
  have used : World.Used ["a"] { net := network } :=
    .setUp "a" _ (.setUp "a" _ (.setUp "a" _ (.register center .start)))
  have small : ∀ g ∈ [five, three], g.bytes ≤ Csi.ceiling := by decide
  have one : (World.volume? { net := network } "a" "vol-2").all five.Covers = true := by
    decide +kernel
  have large : ((Csi.grown {} volumes { net := network } [five]).volume? "a" "vol-2").any
      (fun u => u.size = .ofNat 5 ∧ ¬ three.Covers u) = true := by decide +kernel
  have less : ((Csi.grown {} volumes { net := network } [five, three]).volume? "a" "vol-2").any
      (·.size = .ofNat 3) = true := by decide +kernel
  constructor
  · refine (Csi.expansions used {} volumes fun g hg => small g (List.mem_cons.2 (.inl ?_))).2.1.2 ?_
    · exact List.mem_singleton.1 hg
    · intro before g after hg x y hx _ _
      obtain ⟨rfl, rfl, rfl⟩ : before = [] ∧ five = g ∧ [] = after := by
        cases before with
        | nil => exact ⟨rfl, List.cons.inj hg⟩
        | cons d before => cases before <;> cases hg
      rw [show World.volume? { net := network } "a" "vol-2" = some x from hx] at one
      exact of_decide_eq_true one
  · intro enlarging
    have ample := (Csi.expansions used {} volumes small).2.1.1 enlarging
    obtain ⟨x, hx, hl⟩ := (Option.any_eq_true _ _).1 large
    obtain ⟨y, hy, hs⟩ := (Option.any_eq_true _ _).1 less
    obtain ⟨hl, hc⟩ := of_decide_eq_true hl
    have hs := of_decide_eq_true hs
    refine hc (ample [five] three [] rfl x y hx hy fun same => ?_)
    rw [same, hl] at hs
    exact absurd hs (by decide +kernel)

end Solo

end StorageDriver
