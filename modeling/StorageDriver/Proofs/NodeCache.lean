import Mathlib.Logic.Function.Iterate
import StorageDriver.Fleet
import StorageDriver.Proofs.NodeLearning

namespace StorageDriver

namespace Nodes

/-- Every machine is kept under its UUID, the names with a lock are those that are registered, and
nobody claims a lock. -/
structure Sound (n : Nodes) : Prop where
  distinct : (n.uuids.map (·.1)).Nodup
  named : ∀ p ∈ n.machines, p.2.uuid = p.1
  locked : ∀ name, (n.locks.get? name).isSome = (n.uuids.get? name).isSome
  idle : ∀ name, n.IsIdle name

/-- Every machine with a UUID is that of a registered name. -/
def Owned (n : Nodes) : Prop :=
  ∀ uuid, uuid ≠ "" → (n.machines.get? uuid).isSome = true →
    ∃ name, n.uuids.get? name = some uuid

theorem Sound.uuid_eq {n : Nodes} (h : n.Sound) {uuid : String} {v : VirtualMachine}
    (hv : n.machines.get? uuid = some v) : v.uuid = uuid :=
  h.named _ (Table.mem_of_get? hv)

section

variable {n : Nodes} {name k : String}

theorem get?_locks_secured :
    ((n.secured name).locks.get? k).isSome = (decide (name = k) || (n.locks.get? k).isSome) := by
  unfold secured
  split
  · by_cases hk : name = k
    · subst hk
      simpa using ‹_›
    · simp [hk]
  · by_cases hk : name = k <;> simp [hk]

theorem idle_secured (idle : ∀ k, n.IsIdle k) : (n.secured name).IsIdle k := by
  unfold secured
  split
  · exact idle k
  · intro l hl
    rw [Table.get?_put] at hl
    split at hl
    · obtain rfl := Option.some.inj hl
      simp
    · have hm := idle k l hl
      have hlt := (List.getElem?_eq_some_iff.1 hm).1
      rw [List.getElem?_append_left hlt]
      exact hm

theorem idle_erase (idle : n.IsIdle k) : IsIdle k { n with locks := n.locks.erase name } := by
  intro l hl
  rw [Table.get?_erase] at hl
  split at hl
  · cases hl
  · exact idle l hl

end

end Nodes

namespace Node

variable {n m : Nodes}

theorem Learns.sound (h : Learns n m) (hn : n.Sound) : m.Sound := by
  induction h with
  | refl => exact hn
  | @uuid m h name hu uuid ih =>
    refine { ih with distinct := Table.nodup_put ih.distinct, locked := fun k => ?_ }
    rw [ih.locked k, Table.get?_put]
    split
    · rename_i hk
      rw [← hk, hu]
      rfl
    · rfl
  | @machine m h v hv ih =>
    refine { ih with named := fun p hp => ?_ }
    obtain rfl | hp := Table.mem_put hp
    · rfl
    · exact ih.named p hp

theorem Learns.owned (h : Learns n m) (hn : n.Owned) : m.Owned := by
  induction h with
  | refl => exact hn
  | @uuid m h name hu uuid ih =>
    intro k hk hm
    obtain ⟨x, hx⟩ := ih k hk hm
    have hne : name ≠ x := by
      rintro rfl
      exact hk (Option.some.inj (hx.symm.trans hu))
    exact ⟨x, by rw [Table.get?_put, if_neg hne, hx]⟩
  | @machine m h v hv ih =>
    intro k hk hm
    rw [Table.get?_put] at hm
    split at hm
    · rename_i he
      subst he
      exact hv.elim id fun hs => ih v.uuid hk (m.machines.has_eq_isSome v.uuid ▸ hs)
    · exact ih k hk hm

theorem Fetches.sound {uuid : String} {r : Except Error VirtualMachine} (h : Fetches uuid n r m)
    (hn : n.Sound) : m.Sound := by
  cases h with
  | missed e => exact hn
  | got hv =>
    refine { hn with named := fun p hp => ?_ }
    obtain rfl | hp := Table.mem_put hp
    · rfl
    · exact hn.named p hp

theorem get?_staying (n : Nodes) (uuid name k : String) :
    (staying n uuid name).get? k =
      if n.uuids.get? name = some k ∧ k ≠ "" ∧ k ≠ uuid then none else n.machines.get? k := by
  unfold staying
  cases hu : n.uuids.get? name with
  | none => simp
  | some old =>
    dsimp only
    split
    · rename_i ho
      rw [Table.get?_erase]
      by_cases hk : old = k
      · subst hk
        simp [ho]
      · simp [hk]
    · rename_i ho
      refine (if_neg ?_).symm
      rintro ⟨hk, hne⟩
      exact ho (Option.some.inj hk ▸ hne)

theorem mem_staying {uuid name : String} {p : String × VirtualMachine}
    (h : p ∈ staying n uuid name) : p ∈ n.machines := by
  unfold staying at h
  split at h
  · split at h
    · exact (List.mem_filter.1 h).1
    · exact h
  · exact h

theorem Enters.uuid_eq {uuid name : String} {r : Except Error Unit} {k : Nodes}
    (h : Enters uuid name n r k) (hu : uuid ≠ "") :
    k.uuids.get? name = some uuid := by
  cases h with
  | missed e => simp
  | found hm =>
    have hm : _ = uuid := hm.uuid hu
    simp [hm]

theorem Enters.sound {uuid name : String} {r : Except Error Unit} {k : Nodes}
    (h : Enters uuid name n r k) (hn : n.Sound) : (k.behind (n.secured name)).Sound := by
  have locked (x u : String) :
      ((n.secured name).locks.get? x).isSome = ((n.uuids.put name u).get? x).isSome := by
    rw [Nodes.get?_locks_secured, hn.locked, Table.get?_put]
    by_cases hx : name = x <;> simp [hx]
  cases h with
  | missed e =>
    exact {
      distinct := Table.nodup_put hn.distinct
      named := fun p hp => hn.named p (mem_staying hp)
      locked := fun x => locked x uuid
      idle := fun _ => Nodes.idle_secured hn.idle }
  | @found v hv =>
    refine {
      distinct := Table.nodup_put hn.distinct
      named := fun p hp => ?_
      locked := fun x => locked x v.uuid
      idle := fun _ => Nodes.idle_secured hn.idle }
    obtain rfl | hp := Table.mem_put hp
    · rfl
    · exact hn.named p (mem_staying hp)

theorem Enters.owned {uuid name : String} {r : Except Error Unit} {k : Nodes}
    (h : Enters uuid name n r k) (hn : n.Owned) : k.Owned := by
  -- Who has a machine that stays is another name, or `name` with the UUID it has now.
  have stay (x : String) (hx : x ≠ "") (hs : ((staying n uuid name).get? x).isSome = true) :
      x = uuid ∨ ∃ other, name ≠ other ∧ n.uuids.get? other = some x := by
    rw [get?_staying] at hs
    split at hs
    · cases hs
    · rename_i hc
      obtain ⟨other, ho⟩ := hn x hx hs
      by_cases he : name = other
      · subst he
        exact .inl (Decidable.byContradiction fun hne => hc ⟨ho, hx, hne⟩)
      · exact .inr ⟨other, he, ho⟩
  have own (x u : String) (hx : x = u ∨ ∃ other, name ≠ other ∧ n.uuids.get? other = some x) :
      ∃ other, (n.uuids.put name u).get? other = some x := by
    obtain rfl | ⟨other, hne, ho⟩ := hx
    · exact ⟨name, by simp⟩
    · exact ⟨other, by rw [Table.get?_put, if_neg hne, ho]⟩
  cases h with
  | missed e => exact fun x hx hs => own x uuid (stay x hx hs)
  | @found v hv =>
    intro x hx hs
    refine own x v.uuid ?_
    rw [Table.get?_put] at hs
    split at hs
    · exact .inl (Eq.symm ‹_›)
    · obtain rfl | ho := stay x hx hs
      · exact .inl (hv.uuid hx).symm
      · exact .inr ho

theorem Leaves.sound {name : String} {r : Except Error Unit} (h : Leaves name n r m)
    (hn : n.Sound) : m.Sound := by
  cases h with
  | unknown => exact hn
  | known hu =>
    exact {
      distinct := hn.distinct.sublist (List.filter_sublist.map _)
      named := fun p hp => hn.named p (List.mem_filter.1 hp).1
      locked := fun k => by
        rw [Table.get?_erase, Table.get?_erase]
        by_cases hk : name = k
        · rw [if_pos hk, if_pos hk]
          rfl
        · rw [if_neg hk, if_neg hk, Nodes.get?_locks_secured, hn.locked k]
          simp [hk]
      idle := fun k => Nodes.idle_erase (Nodes.idle_secured hn.idle) }

theorem Leaves.owned {name : String} {r : Except Error Unit} (h : Leaves name n r m)
    (hn : n.Owned) : m.Owned := by
  cases h with
  | unknown => exact hn
  | @known uuid hu =>
    intro k hk hs
    rw [Table.get?_erase] at hs
    split at hs
    · cases hs
    · rename_i hne
      obtain ⟨other, ho⟩ := hn k hk hs
      refine ⟨other, ?_⟩
      rw [Table.get?_erase, if_neg, ho]
      rintro rfl
      exact hne (Option.some.inj (hu.symm.trans ho))

inductive Demand
  | register (uuid name : String)
  | unregister (name : String)
  | uuid (name : String)
  | machineOf (name : String)
  | sweep
  | discover (uuid name : String)
  | machine (uuid name : String)

namespace Demand

def isNamed : Demand → Bool
  | discover _ _ | machine _ _ => false
  | _ => true

abbrev Answer : Demand → Type
  | uuid _ => String
  | machineOf _ | machine _ _ => VirtualMachine
  | sweep => List VirtualMachine
  | register _ _ | unregister _ | discover _ _ => Unit

def attempt : (d : Demand) → Attempt d.Answer
  | register u name => Node.register u name
  | unregister name => Node.unregister name
  | uuid name => Node.uuid name
  | machineOf name => Node.machineOf name
  | sweep => Node.sweep
  | discover u name => Node.discover u name
  | machine u name => Node.machine u name

variable {R : Type} [Remote R] {s : Setting} {w w' : World R} {d : Demand}
  {r : Except Error d.Answer}

theorem sound (hw : w.nodes.Sound) (hr : d.attempt.Runs s w r w') : w'.nodes.Sound := by
  have named {uuid : String} {v : VirtualMachine} (hv : w.nodes.machines.get? uuid = some v) :
      v.uuid = uuid := hw.uuid_eq hv
  cases d with
  | register uuid name =>
    obtain ⟨k, hk, he⟩ := (leads_register uuid (hw.idle name)).runs hr
    exact Eq.mpr (congrArg Nodes.Sound he) (hk.sound hw)
  | unregister name => exact ((leads_unregister (hw.idle name)).runs hr).sound hw
  | uuid name => exact ((leads_uuid name w.nodes).runs hr).1.sound hw
  | machineOf name => exact ((leads_machineOf name fun _ _ => named).runs hr).sound hw
  | sweep => exact ((leads_sweep hw.distinct hw.named).runs hr).1.sound hw
  | discover uuid name =>
    obtain ⟨r, hr⟩ := (leads_discover uuid name w.nodes).runs hr
    exact hr.sound hw
  | machine uuid name => exact ((leads_machine uuid name fun _ => named).runs hr).sound hw

theorem owned (hw : w.nodes.Sound) (ho : w.nodes.Owned) (hd : d.isNamed = true)
    (hr : d.attempt.Runs s w r w') : w'.nodes.Owned := by
  have named {uuid : String} {v : VirtualMachine} (hv : w.nodes.machines.get? uuid = some v) :
      v.uuid = uuid := hw.uuid_eq hv
  cases d with
  | register uuid name =>
    obtain ⟨k, hk, he⟩ := (leads_register uuid (hw.idle name)).runs hr
    exact Eq.mpr (congrArg Nodes.Owned he) (hk.owned ho)
  | unregister name => exact ((leads_unregister (hw.idle name)).runs hr).owned ho
  | uuid name => exact ((leads_uuid name w.nodes).runs hr).1.owned ho
  | machineOf name => exact ((leads_machineOf name fun _ _ => named).runs hr).owned ho
  | sweep => exact ((leads_sweep hw.distinct hw.named).runs hr).1.owned ho
  | discover | machine => cases hd

end Demand

/-- What comes of any demands that `may` allows, one after another, while the planes and the
cluster do as they like. -/
inductive Reachable {R : Type} [Remote R] (may : Demand → Prop) : World R → Prop
  | start (net : Network R) : Reachable may { net := net }
  | meanwhile {w : World R} (h : Reachable may w) (net : Network R) :
    Reachable may { w with net := net }
  | meet {w : World R} (h : Reachable may w) {d : Demand} (hd : may d) {s : Setting}
      {r : Except Error d.Answer} {w' : World R} (hr : d.attempt.Runs s w r w') : Reachable may w'

namespace Reachable

variable {R : Type} [Remote R] {may : Demand → Prop} {w : World R}

theorem sound (h : Reachable may w) : w.nodes.Sound := by
  induction h with
  | start net =>
    exact { distinct := .nil, named := nofun, locked := fun _ => rfl, idle := fun _ => nofun }
  | meanwhile _ net ih => exact ih
  | meet _ hd hr ih => exact Demand.sound ih hr

theorem owned (named : ∀ d, may d → d.isNamed = true) (h : Reachable may w) : w.nodes.Owned := by
  induction h with
  | start net => exact fun _ _ hs => nomatch hs
  | meanwhile _ net ih => exact ih
  | meet h hd hr ih => exact Demand.owned h.sound ih (named _ hd) hr

/-- A machine is always kept under its UUID. As long as nobody makes up UUIDs, each machine that
has one is that of a registered name, the names with a lock are those that are registered, no node
is said to have an empty UUID, a name that is registered has its machine unless it was not found,
and of one that is unregistered nothing is left. -/
theorem consistent (h : Reachable may w) :
    (∀ uuid v, w.nodes.machines.get? uuid = some v → v.uuid = uuid) ∧
    ((∀ d, may d → d.isNamed = true) →
      (∀ uuid, uuid ≠ "" → (w.nodes.machines.get? uuid).isSome = true →
        ∃ name, w.nodes.uuids.get? name = some uuid) ∧
      (∀ name, (w.nodes.locks.get? name).isSome = (w.nodes.uuids.get? name).isSome) ∧
      (∀ s name u w', (Node.uuid name).Runs s w (.ok u) w' → u ≠ "") ∧
      (∀ s uuid name w', (register uuid name).Runs s w (.ok ()) w' →
        ∃ v, w'.nodes.uuids.get? name = some v.uuid ∧ w'.nodes.machines.get? v.uuid = some v ∧
          (uuid ≠ "" → v.uuid = uuid) ∧ Query.Finds ⟨name, uuid⟩ v) ∧
      (∀ s uuid name e w', (register uuid name).Runs s w (.error e) w' →
        w'.nodes.uuids.get? name = some uuid) ∧
      ∀ s name w', (unregister name).Runs s w (.ok ()) w' →
        ∃ uuid, w.nodes.uuids.get? name = some uuid ∧ w'.nodes.uuids.get? name = none ∧
          w'.nodes.machines.get? uuid = none) := by
  have hw := h.sound
  refine ⟨fun uuid v hv => hw.uuid_eq hv, fun named => ⟨h.owned named, hw.locked,
    fun s name u w' hr => (((leads_uuid name w.nodes).runs hr).2.2 u rfl).1,
    fun s uuid name w' hr => ?_, fun s uuid name e w' hr => ?_, fun s name w' hr => ?_⟩⟩
  · obtain ⟨k, hk, he⟩ := (leads_register uuid (hw.idle name)).runs hr
    rw [he]
    cases hk with
    | @found v hv => exact ⟨v, by simp [Nodes.behind], by simp [Nodes.behind], hv.uuid, hv⟩
  · obtain ⟨k, hk, he⟩ := (leads_register uuid (hw.idle name)).runs hr
    rw [he]
    cases hk
    simp [Nodes.behind]
  · have hl := (leads_unregister (hw.idle name)).runs hr
    generalize w'.nodes = m at hl
    cases hl with
    | known hu => exact ⟨_, hu, by simp, by simp⟩

end Reachable

end Node

namespace Search.State

variable {R : Type} [Remote R] {giveUp : Option Nat} {s : State R}

theorem run_of_none (h : s.next giveUp = none) : s.run giveUp = s := by
  rw [run]
  split
  · rfl
  · simp_all

theorem run_of_some {t : State R} (h : s.next giveUp = some t) : s.run giveUp = t.run giveUp := by
  rw [run]
  split
  · simp_all
  · simp_all

theorem run_advance (giveUp : Option Nat) (s : State R) (k : Nat) :
    ((fun s : State R => (s.next giveUp).getD s)^[k] s).run giveUp = s.run giveUp := by
  induction k generalizing s with
  | zero => rfl
  | succ k ih =>
    rw [Function.iterate_succ_apply, ih]
    cases h : s.next giveUp with
    | none => rfl
    | some t => exact (run_of_some h).symm

end Search.State

namespace Node.Lone

def plane : Plane where
  host := "a"
  datacenters := [{ id := "dc" }]
  machines := [{ id := "vm-1", name := "n", uuid := "u", datacenter := "dc" }]

def world : World Fleet where
  net := Network.register { planes := .ofPlanes [plane] } plane.config

set_option maxRecDepth 4000 in
theorem isOk_search :
    ((Network.search (R := Fleet) 4 .endless ⟨"n", "u"⟩).run.run world.net).1.isOk = true := by
  show (Network.search (R := Fleet) 4 .endless ⟨"n", "u"⟩ world.net).1.isOk = true
  unfold Network.search
  rw [if_neg (by decide)]
  show (Search.State.run none _).outcome.isOk = true
  rw [← Search.State.run_advance none _ 16, Search.State.run_of_none]
  · rfl
  · have hr : ∀ u : Search.State Fleet, u.ready.findSome? u.step = none → u.timed none = [] →
        u.next none = none := by
      intro u hr ht
      simp [Search.State.next, Search.State.earliest, hr, ht]
    exact hr _ rfl rfl

theorem register (nodes : Nodes) :
    ∃ w', (Node.register "u" "n").Runs {} { world with nodes := nodes } (.ok ()) w' := by
  have hs := isOk_search
  have hr := execute_register {} { world with nodes := nodes } "u" "n"
  cases hx : ((Network.search (R := Fleet) 4 .endless ⟨"n", "u"⟩).run.run world.net).1 with
  | ok v => exact ⟨_, Attempt.runs_of_execute (Prod.ext (hr.trans (congrArg _ hx)) rfl)⟩
  | error e =>
    rw [hx] at hs
    cases hs

end Node.Lone

/-- A node is registered after another, and then unregistered. -/
theorem Node.Reachable.consistent_lone : ∃ w w' w'' : World Fleet,
    Reachable (fun d => d.isNamed = true) w ∧ w.nodes.uuids.get? "a" = some "u" ∧
      (register "u" "n").Runs {} w (.ok ()) w' ∧
      (∃ v, w'.nodes.uuids.get? "n" = some v.uuid ∧ w'.nodes.machines.get? v.uuid = some v ∧
        v.uuid = "u") ∧
      (unregister "n").Runs {} w' (.ok ()) w'' ∧
      w''.nodes.uuids.get? "n" = none ∧ w''.nodes.machines.get? "u" = none := by
  have h₀ : Reachable (fun d => d.isNamed = true) Lone.world := .start Lone.world.net
  have first := Attempt.runs_execute {} (register "u" "a") Lone.world
  obtain ⟨k, hk, he⟩ := (leads_register "u" (h₀.sound.idle "a")).runs first
  have h₁ := (h₀.meet (d := .register "u" "a") rfl first).meanwhile Lone.world.net
  obtain ⟨w', second⟩ := Lone.register ((register "u" "a").execute {} Lone.world).2.nodes
  have h₂ := h₁.meet (d := .register "u" "n") rfl second
  obtain ⟨v, hu, hm, hv, -⟩ := (h₁.consistent.2 fun _ => id).2.2.2.1 _ _ _ _ second
  have hv : v.uuid = "u" := hv (by decide)
  rw [hv] at hu hm
  have third := Attempt.runs_execute {} (unregister "n") w'
  have left := (leads_unregister (h₂.sound.idle "n")).runs third
  generalize (unregister "n").execute {} w' = x at left third
  obtain ⟨r, w''⟩ := x
  dsimp only at left third
  obtain rfl : r = .ok () := by
    generalize w''.nodes = n at left
    cases left with
    | unknown hn => cases hn.symm.trans hu
    | known => rfl
  obtain ⟨uuid, hu', gone, dropped⟩ := (h₂.consistent.2 fun _ => id).2.2.2.2.2 _ _ _ third
  obtain rfl := Option.some.inj (hu'.symm.trans hu)
  refine ⟨_, w', w'', h₁, ?_, second, ⟨v, ?_, ?_, hv⟩, third, gone, dropped⟩
  · exact (congrArg (·.uuids.get? "a") he).trans (hk.uuid_eq (by decide))
  · rw [hv, hu]
  · rw [hv, hm]

end StorageDriver
