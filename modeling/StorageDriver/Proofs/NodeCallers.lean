import StorageDriver.Node
import StorageDriver.Proofs.Conduct

namespace StorageDriver

def Action.IsAside : Action → Prop
  | .nodes _ => False
  | _ => True

/-- Whoever gets this answer learns that `name` is registered. -/
def Action.Tells (name : String) : (a : Action) → a.Answer → Prop
  | .nodes (.uuid other), x => other = name ∧ x.isSome = true
  | .nodes .blanks, x => name ∈ x
  | _, _ => False

/-- The UUID that `name` had until this took it away. -/
def Action.removed? (name : String) : (a : Action) → a.Answer → Option String
  | .nodes (.dropUuid other), x => if other = name then x else none
  | _, _ => none

namespace Node

/-- A reader takes nothing away. Only one who was told that `name` is registered gives it a UUID or
keeps a machine, and the UUID is never empty. -/
def reading (name : String) : Conduct Prop where
  after told a x := told ∨ a.Tells name x
  may told
    | .nodes (.setUuid other uuid) => other = name → told ∧ uuid ≠ ""
    | .nodes (.keep _ _) => told
    | .nodes (.dropUuid _) | .nodes (.drop _) => False
    | _ => True

inductive Departure
  | staying
  /-- The UUID is taken from the name, and its machine is still there. -/
  | leaving (uuid : String)
  | gone (uuid : String)

/-- Who unregisters `name` takes its UUID away and then the machine under it, once each. -/
def departing (name : String) : Conduct Departure where
  after
    | .staying, a, x => (a.removed? name x).elim .staying .leaving
    | .leaving uuid, a, _ => if a = .nodes (.drop uuid) then .gone uuid else .leaving uuid
    | .gone uuid, _, _ => .gone uuid
  may g
    | .nodes (.setUuid _ _) | .nodes (.keep _ _) => False
    | .nodes (.dropUuid _) => g = .staying
    | .nodes (.drop uuid) => g = .leaving uuid
    | _ => True

section

variable (name uuid : String) (told : Prop) (a : Action) (x : a.Answer)

@[simp] theorem after_staying : (departing name).after .staying a x =
    (a.removed? name x).elim .staying .leaving := rfl

@[simp] theorem after_leaving : (departing name).after (.leaving uuid) a x =
    if a = .nodes (.drop uuid) then .gone uuid else .leaving uuid := rfl

@[simp] theorem after_gone : (departing name).after (.gone uuid) a x = .gone uuid := rfl

end

section

open Attempt

variable {name : String} {told : Prop}

theorem obeys_aside {α : Type} {p : Attempt α} (h : p.run.All Action.IsAside) :
    p.run.Obeys (reading name) (fun g _ => g = told) told := by
  refine .of_all (h.mono fun a ha => ?_)
  cases a with
  | nodes op => cases ha
  | _ => exact ⟨trivial, fun x => or_false told⟩

theorem obeys_renew (m : VirtualMachine) (reconnect : Bool) :
    (m.renew reconnect).Obeys (reading name) (fun g _ => g = told) told :=
  (obeys_aside (m.all_renew trivial trivial (fun _ => trivial) reconnect)).imp fun _ _ h _ _ => h

theorem obeys_fetchUuid (other : String) : (fetchUuid other).run.Obeys (reading name)
    (fun g r => g = told ∧ ∀ uuid, r = .ok uuid → uuid ≠ "") told := by
  unfold fetchUuid
  rw [run_bind]
  have hc : (clusterUuid other).run.All Action.IsAside := ⟨trivial, fun _ => trivial⟩
  refine (obeys_aside hc).bind fun g r hg => ?_
  subst hg
  cases r with
  | error e => exact ⟨rfl, fun _ h => by cases h⟩
  | ok uuid =>
    dsimp only
    split
    · exact ⟨rfl, fun _ h => by cases h⟩
    · refine ⟨rfl, fun u hu => ?_⟩
      obtain rfl := Except.ok.inj hu
      assumption

theorem obeys_uuid : (uuid name).Obeys (reading name) (fun g _ => g) told := by
  unfold uuid
  refine obeys_nodes_bind trivial fun x => ?_
  cases x with
  | none => exact obeys_throw _
  | some known =>
    have ht : (reading name).after told (.nodes (.uuid name)) (some known) := .inr ⟨rfl, rfl⟩
    dsimp only
    split
    · exact obeys_pure ht
    · refine obeys_bind (fun g fetched => g ∧ fetched ≠ "") ?_ fun g fetched hg => ?_
      · exact (obeys_fetchUuid name).imp fun g r hr u hu => ⟨hr.1 ▸ ht, hr.2 u hu⟩
      · refine obeys_nodes_bind (fun _ => hg) fun _ => obeys_pure ?_
        exact .inl hg.1

theorem obeys_find (uuid : String) (ht : told) :
    (find uuid name).Obeys (reading name) (fun _ _ => True) told := by
  unfold find
  have hs (q : Query) : (search q).run.All Action.IsAside := ⟨trivial, fun _ => trivial⟩
  refine obeys_bind (fun g _ => g = told) ((obeys_aside (hs _)).imp fun _ _ h _ _ => h)
    fun g m hg => ?_
  subst hg
  exact obeys_nodes_bind ht fun _ => obeys_pure trivial

theorem obeys_machine (uuid : String) (ht : told) :
    (machine uuid name).Obeys (reading name) (fun _ _ => True) told := by
  unfold machine
  refine obeys_nodes_bind trivial fun x => ?_
  cases x with
  | none => exact obeys_find uuid (.inl ht)
  | some m =>
    refine obeys_bind _ (obeys_renew m true) fun _ m' _ => ?_
    exact obeys_nodes_bind trivial fun _ => obeys_pure trivial

theorem obeys_machineOf : (machineOf name).Obeys (reading name) (fun _ _ => True) told :=
  obeys_bind _ obeys_uuid fun _ u ht => obeys_machine u ht

theorem obeys_fill {names : List String} (ht : name ∈ names → told) :
    (fill names).Obeys (reading name) (fun _ _ => True) told := by
  induction names with
  | nil => exact obeys_pure trivial
  | cons other names ih =>
    unfold fill
    refine obeys_outcome_bind (obeys_fetchUuid other) fun g r hr => ?_
    obtain ⟨rfl, hr⟩ := hr
    have rest := ih fun hn => ht (List.mem_cons_of_mem _ hn)
    cases r with
    | error e => exact rest
    | ok u =>
      refine obeys_nodes_bind (fun ho => ⟨ht (ho ▸ List.mem_cons_self), hr u rfl⟩) fun x => ?_
      have hg : (reading name).after g (.nodes (.setUuid other u)) x = g := or_false g
      rw [hg]
      exact rest

theorem obeys_renewAll (met : List String) (t : Table VirtualMachine) :
    (renewAll met t).Obeys (reading name) (fun _ _ => True) told := by
  induction t generalizing met told with
  | nil => exact obeys_pure trivial
  | cons p t ih =>
    unfold renewAll
    refine obeys_bind _ (obeys_renew p.2 _) fun _ m _ => obeys_nodes_bind trivial fun _ => ?_
    exact obeys_bind _ (ih _) fun _ _ _ => obeys_pure trivial

theorem obeys_sweep : sweep.Obeys (reading name) (fun _ _ => True) told := by
  unfold sweep
  refine obeys_nodes_bind trivial fun names => ?_
  refine obeys_bind _ (obeys_fill fun hn => .inr hn) fun _ _ _ => ?_
  exact obeys_nodes_bind trivial fun t => obeys_renewAll [] t

theorem obeys_leave : (leave name).Obeys (departing name) (fun g _ => ∃ uuid, g = .gone uuid)
    .staying := by
  unfold leave
  refine obeys_nodes_bind rfl fun x => ?_
  cases x with
  | none => exact obeys_throw _
  | some uuid =>
    have hl : Action.removed? name (.nodes (.dropUuid name)) (some uuid) = some uuid := if_pos rfl
    rw [after_staying, hl]
    exact ⟨rfl, fun _ _ _ => ⟨uuid, if_pos rfl⟩⟩

theorem obeys_unregister : (unregister name).Obeys (departing name)
    (fun g _ => ∃ uuid, g = .gone uuid) .staying := by
  unfold unregister
  refine obeys_nodes_bind trivial fun x => ?_
  split
  · exact obeys_throw _
  · refine obeys_nodes_bind trivial fun l => obeys_nodes_bind trivial fun _ => ?_
    refine obeys_outcome_bind obeys_leave fun g r hr => ?_
    refine obeys_nodes_bind trivial fun _ => obeys_nodes_bind trivial fun _ =>
      obeys_nodes_bind trivial fun _ => ?_
    intro a ha
    obtain ⟨uuid, rfl⟩ := hr a ha
    exact ⟨uuid, rfl⟩

end

inductive Lookup
  | uuid
  | machine
  | all
deriving DecidableEq, Repr

def Lookup.attempt (name : String) : Lookup → Attempt Unit
  | uuid => do let _ ← Node.uuid name
  | machine => do let _ ← machineOf name
  | all => do let _ ← sweep

theorem Lookup.obeys (name : String) (l : Lookup) (told : Prop) :
    (l.attempt name).Obeys (reading name) (fun _ _ => True) told := by
  cases l with
  | uuid => exact Attempt.obeys_bind _ obeys_uuid fun _ _ _ => Attempt.obeys_pure trivial
  | machine => exact Attempt.obeys_bind _ obeys_machineOf fun _ _ _ => Attempt.obeys_pure trivial
  | all => exact Attempt.obeys_bind _ obeys_sweep fun _ _ _ => Attempt.obeys_pure trivial

end Node

end StorageDriver
