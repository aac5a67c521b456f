import Mathlib.Data.List.Induction
import StorageDriver.Proofs.NodeHistory

namespace StorageDriver

/-- Whoever unregisters takes the UUID away from `name`. -/
def Deed.removal (name uuid : String) : Deed := ⟨0, .nodes (.dropUuid name), some uuid⟩

def Deed.clearing (uuid : String) : Deed := ⟨0, .nodes (.drop uuid), ()⟩

namespace Node

open Deed (removal clearing)

def Told (name : String) (log : List Deed) (i : Nat) : Prop :=
  ∃ e ∈ log, e.who = i ∧ e.action.Tells name e.answer

theorem stage_reading (name : String) (log : List Deed) (i : Nat) (told : Prop) :
    (reading name).stage told log i ↔ told ∨ Told name log i := by
  induction log generalizing told with
  | nil => simp [Conduct.stage, Told]
  | cons e log ih =>
    rw [Conduct.stage_cons, ih]
    by_cases he : e.who = i <;> simp [he, reading, Told, or_assoc]

theorem stage_gone (name uuid : String) (log : List Deed) (i : Nat) :
    (departing name).stage (.gone uuid) log i = .gone uuid := by
  induction log with
  | nil => rfl
  | cons e log ih => rw [Conduct.stage_cons, after_gone, ite_self, ih]

theorem stage_leaving (name uuid : String) (log : List Deed) (i : Nat) :
    (departing name).stage (.leaving uuid) log i = .leaving uuid ∨
      (departing name).stage (.leaving uuid) log i = .gone uuid := by
  induction log with
  | nil => exact .inl rfl
  | cons e log ih =>
    rw [Conduct.stage_cons, after_leaving, ← ite_and]
    split
    · exact .inr (stage_gone name uuid log i)
    · exact ih

theorem not_sets_clearing (name uuid : String) : ¬ (clearing uuid).action.Sets name := by
  rintro ⟨u, h⟩
  cases h

theorem removed_removal (name uuid : String) :
    (removal name uuid).action.removed? name (removal name uuid).answer = some uuid :=
  if_pos rfl

theorem eq_removal {name uuid : String} {e : Deed} (hw : e.who = 0)
    (h : e.action.removed? name e.answer = some uuid) : e = removal name uuid := by
  obtain ⟨i, a, x⟩ := e
  obtain rfl : i = 0 := hw
  cases a with
  | nodes op =>
    cases op with
    | dropUuid other =>
      obtain ⟨rfl, rfl⟩ : other = name ∧ x = some uuid := by simpa [Action.removed?] using h
      rfl
    | _ => cases h
  | _ => cases h

section

variable {name uuid : String} {log : List Deed}

theorem exists_clearing (h : (departing name).stage (.leaving uuid) log 0 ≠ .leaving uuid) :
    ∃ l₁ l₂, log = l₁ ++ clearing uuid :: l₂ := by
  induction log with
  | nil => exact absurd rfl h
  | cons e log ih =>
    rw [Conduct.stage_cons, after_leaving, ← ite_and] at h
    split at h
    · rename_i he
      obtain ⟨i, a, x⟩ := e
      obtain ⟨rfl, rfl⟩ : i = 0 ∧ a = .nodes (.drop uuid) := he
      exact ⟨[], log, rfl⟩
    · obtain ⟨l₁, l₂, rfl⟩ := ih h
      exact ⟨e :: l₁, l₂, rfl⟩

theorem exists_removal (h : (departing name).stage .staying log 0 = .gone uuid) :
    ∃ l₁ l₂ l₃, log = l₁ ++ removal name uuid :: (l₂ ++ clearing uuid :: l₃) := by
  induction log with
  | nil => cases h
  | cons e log ih =>
    have rest (hs : (departing name).stage .staying log 0 = .gone uuid) :
        ∃ l₁ l₂ l₃, e :: log = l₁ ++ removal name uuid :: (l₂ ++ clearing uuid :: l₃) := by
      obtain ⟨l₁, l₂, l₃, rfl⟩ := ih hs
      exact ⟨e :: l₁, l₂, l₃, rfl⟩
    rw [Conduct.stage_cons, after_staying] at h
    split at h
    · rename_i hw
      cases hr : e.action.removed? name e.answer with
      | none =>
        rw [hr] at h
        exact rest h
      | some u =>
        rw [hr, Option.elim_some] at h
        obtain rfl : u = uuid := by
          obtain hs | hs := stage_leaving name u log 0
          · exact nomatch hs.symm.trans h
          · exact Departure.gone.inj (hs.symm.trans h)
        obtain ⟨l₂, l₃, rfl⟩ := exists_clearing (h.trans_ne fun he => by cases he)
        exact ⟨[], l₂, l₃, eq_removal hw hr ▸ rfl⟩
    · exact rest h

end

/-- What a log shows in which member 0 unregisters `name` and all others read. -/
structure Departs (name : String) (n : Nodes) (log : List Deed) : Prop where
  answers : Throughout (fun l e => e.action.Answers (n.replay l) e.answer) log
  leaver : Throughout (fun l e => e.who = 0 →
    (departing name).may ((departing name).stage .staying l 0) e.action) log
  readers : Throughout (fun l e => e.who ≠ 0 →
    (reading name).may (Told name l e.who) e.action) log

/-- Someone who was told of `name` before registered it since. -/
def Revived (name : String) (before since : List Deed) : Prop :=
  ∃ e ∈ since, e.action.Sets name ∧ Told name before e.who

/-- Someone who was told of `name` before kept a machine under `uuid` since. -/
def Rekept (name uuid : String) (before since : List Deed) : Prop :=
  ∃ e ∈ since, e.action.Keeps uuid ∧ Told name before e.who

namespace Departs

variable {name uuid : String} {n : Nodes} {l₁ l₂ l₃ : List Deed} {e : Deed}

theorem stage_eq (h : Departs name n (l₁ ++ removal name uuid :: l₃)) (l : List Deed) :
    (departing name).stage .staying (l₁ ++ removal name uuid :: l) 0 =
      (departing name).stage (.leaving uuid) l 0 := by
  have hs : (departing name).stage .staying l₁ 0 = .staying := h.leaver l₁ _ l₃ rfl rfl
  have hw : (removal name uuid).who = 0 := rfl
  rw [Conduct.stage_append, Conduct.stage_cons, hs, if_pos hw, after_staying, removed_removal,
    Option.elim_some]

theorem ne_dropUuid (h : Departs name n (l₁ ++ removal name uuid :: l₂)) (he : e ∈ l₂)
    (other : String) : e.action ≠ .nodes (.dropUuid other) := by
  obtain ⟨a, b, rfl⟩ := List.append_of_mem he
  intro hd
  by_cases hw : e.who = 0
  · have hm := h.leaver (l₁ ++ removal name uuid :: a) e b (by simp) hw
    rw [h.stage_eq, hd] at hm
    obtain hs | hs := stage_leaving name uuid a 0 <;> exact nomatch hs.symm.trans hm
  · have hm := h.readers (l₁ ++ removal name uuid :: a) e b (by simp) hw
    rw [hd] at hm
    exact hm

theorem ne_drop (h : Departs name n (l₁ ++ removal name uuid :: (l₂ ++ clearing uuid :: l₃)))
    (he : e ∈ l₃) (other : String) : e.action ≠ .nodes (.drop other) := by
  obtain ⟨a, b, rfl⟩ := List.append_of_mem he
  intro hd
  by_cases hw : e.who = 0
  · have hm := h.leaver (l₁ ++ removal name uuid :: (l₂ ++ clearing uuid :: a)) e b (by simp) hw
    have hg : (departing name).stage (.leaving uuid) (l₂ ++ clearing uuid :: a) 0 =
        .gone uuid := by
      rw [Conduct.stage_append, Conduct.stage_cons]
      obtain hs | hs := stage_leaving name uuid l₂ 0 <;>
        simp [hs, clearing, stage_gone]
    rw [h.stage_eq, hg, hd] at hm
    cases hm
  · have hm := h.readers (l₁ ++ removal name uuid :: (l₂ ++ clearing uuid :: a)) e b (by simp) hw
    rw [hd] at hm
    exact hm

theorem isSome_uuids (h : Departs name n (l₁ ++ removal name uuid :: (l₂ ++ l₃))) :
    ((n.replay (l₁ ++ removal name uuid :: l₂)).uuids.get? name).isSome = true ↔
      ∃ e ∈ l₂, e.action.Sets name := by
  have hr : ((removal name uuid).action.change (n.replay l₁)).uuids.get? name = none := by
    simp [removal, Action.change, Nodes.apply]
  have step (e : Deed) (he : e ∈ l₂) (m : Nodes) := Action.isSome_uuids_change
    (h.ne_dropUuid (List.mem_append_left l₃ he) name) m
  rw [Nodes.replay_append]
  refine (Nodes.replay_iff (P := fun m => (m.uuids.get? name).isSome = true) step).trans ?_
  simp [hr]

theorem isSome_machines
    (h : Departs name n (l₁ ++ removal name uuid :: (l₂ ++ clearing uuid :: l₃))) :
    ((n.replay (l₁ ++ removal name uuid :: (l₂ ++ clearing uuid :: l₃))).machines.get?
      uuid).isSome = true ↔ ∃ e ∈ l₃, e.action.Keeps uuid := by
  have hc (m : Nodes) : ((clearing uuid).action.change m).machines.get? uuid = none := by
    simp [clearing, Action.change, Nodes.apply]
  have step (e : Deed) (he : e ∈ l₃) (m : Nodes) :=
    Action.isSome_machines_change (h.ne_drop he uuid) m
  rw [← List.cons_append, ← List.append_assoc, Nodes.replay_append]
  refine (Nodes.replay_iff (P := fun m => (m.machines.get? uuid).isSome = true) step).trans ?_
  simp [hc]

/-- Until someone registers the name anew, nobody is told of it. -/
theorem told (h : Departs name n (l₁ ++ removal name uuid :: (l₂ ++ l₃)))
    (hn : ¬ ∃ f ∈ l₂, f.action.Sets name) {i : Nat}
    (ht : Told name (l₁ ++ removal name uuid :: l₂) i) : Told name l₁ i := by
  obtain ⟨t, hm, hw, ht⟩ := ht
  obtain hm | hm := List.mem_append.1 hm
  · exact ⟨t, hm, hw, ht⟩
  obtain rfl | hm := List.mem_cons.1 hm
  · cases ht
  obtain ⟨a, b, rfl⟩ := List.append_of_mem hm
  have hs := ht.isSome (h.answers (l₁ ++ removal name uuid :: a) t (b ++ l₃) (by simp))
  rw [List.append_assoc] at h
  obtain ⟨f, hf, hs⟩ := h.isSome_uuids.1 hs
  exact absurd ⟨f, List.mem_append_left _ hf, hs⟩ hn

theorem may_read (h : Departs name n (l₁ ++ removal name uuid :: (l₂ ++ e :: l₃)))
    (he : ∀ g, ¬ (departing name).may g e.action) :
    (reading name).may (Told name (l₁ ++ removal name uuid :: l₂) e.who) e.action := by
  have hl : l₁ ++ removal name uuid :: (l₂ ++ e :: l₃) =
      (l₁ ++ removal name uuid :: l₂) ++ e :: l₃ := by simp
  exact h.readers _ e l₃ hl fun hw => he _ (h.leaver _ e l₃ hl hw)

theorem told_of_sets (h : Departs name n (l₁ ++ removal name uuid :: (l₂ ++ e :: l₃)))
    {u : String} (he : e.action = .nodes (.setUuid name u)) :
    Told name (l₁ ++ removal name uuid :: l₂) e.who ∧ u ≠ "" := by
  have hm := h.may_read fun _ => by rw [he]; exact id
  rw [he] at hm
  exact hm rfl

theorem told_of_keeps (h : Departs name n (l₁ ++ removal name uuid :: (l₂ ++ e :: l₃)))
    {u : String} (he : e.action.Keeps u) : Told name (l₁ ++ removal name uuid :: l₂) e.who := by
  obtain ⟨m, he⟩ := he
  have hm := h.may_read fun _ => by rw [he]; exact id
  rw [he] at hm
  exact hm

theorem uuids_ne (h : Departs name n (l₁ ++ removal name uuid :: l₂)) :
    (n.replay (l₁ ++ removal name uuid :: l₂)).uuids.get? name ≠ some "" := by
  rw [Nodes.replay_append]
  refine Nodes.replay_keeps (n := (removal name uuid).action.change (n.replay l₁))
    (P := fun m => m.uuids.get? name ≠ some "") ?_ fun e he m hm => ?_
  · simp [removal, Action.change, Nodes.apply]
  · obtain ⟨a, b, rfl⟩ := List.append_of_mem he
    exact Action.uuids_change_ne (fun hs => (h.told_of_sets hs).2 rfl) hm

theorem revived_iff (h : Departs name n (l₁ ++ removal name uuid :: (l₂ ++ l₃))) :
    (∃ e ∈ l₂, e.action.Sets name) ↔ Revived name l₁ l₂ := by
  refine ⟨fun hs => ?_, fun ⟨e, he, hs, _⟩ => ⟨e, he, hs⟩⟩
  -- The first one to register the name was told of it before, as since then nobody could be.
  induction l₂ using List.reverseRecOn generalizing l₃ with
  | nil => simp at hs
  | append_singleton l₂ e ih =>
    rw [List.append_assoc] at h
    by_cases hl : ∃ f ∈ l₂, f.action.Sets name
    · obtain ⟨f, hf, ht⟩ := ih h hl
      exact ⟨f, List.mem_append_left _ hf, ht⟩
    · obtain ⟨f, hf, u, hs⟩ := hs
      obtain hf | hf := List.mem_append.1 hf
      · exact absurd ⟨f, hf, u, hs⟩ hl
      · obtain rfl := List.mem_singleton.1 hf
        exact ⟨f, by simp, ⟨u, hs⟩, h.told hl (h.told_of_sets hs).1⟩

end Departs

/-- What is left of `name` and of the machine under `uuid`, where the name was taken away after
`before` and the machine between `between` and `after`. -/
structure Aftermath (name uuid : String) (before between after : List Deed) (n : Nodes) : Prop where
  registered : (n.uuids.get? name).isSome = true ↔ Revived name before (between ++ after)
  unknown : ¬ Revived name before (between ++ after) →
    ∀ {R : Type} [Remote R] (s : Setting) (w : World R), w.nodes = n →
      ((Node.uuid name).execute s w).1 = .error (.nodeNotFound name)
  known : Revived name before (between ++ after) →
    ∃ u, ∀ {R : Type} [Remote R] (s : Setting) (w : World R), w.nodes = n →
      ((Node.uuid name).execute s w).1 = .ok u
  kept : Rekept name uuid before after → (n.machines.get? uuid).isSome = true
  missing : ¬ Revived name before (between ++ after) → ¬ Rekept name uuid before after →
    n.machines.get? uuid = none

section

variable {R : Type} [Remote R] (s : Setting) {w : World R} {name u : String}

theorem execute_uuid_of_none (h : w.nodes.uuids.get? name = none) :
    ((uuid name).execute s w).1 = .error (.nodeNotFound name) := by
  unfold uuid
  rw [Attempt.execute_nodes_bind]
  simp only [Nodes.apply, h]
  rfl

theorem execute_uuid_of_ne (h : w.nodes.uuids.get? name = some u) (hu : u ≠ "") :
    ((uuid name).execute s w).1 = .ok u := by
  unfold uuid
  rw [Attempt.execute_nodes_bind]
  simp only [Nodes.apply, h, if_pos hu]
  rfl

end

theorem Departs.aftermath {name uuid : String} {n : Nodes} {l₁ l₂ l₃ : List Deed}
    (h : Departs name n (l₁ ++ removal name uuid :: (l₂ ++ clearing uuid :: l₃))) :
    Aftermath name uuid l₁ l₂ l₃
      (n.replay (l₁ ++ removal name uuid :: (l₂ ++ clearing uuid :: l₃))) := by
  have whole := h
  rw [← List.append_nil (l₂ ++ clearing uuid :: l₃)] at whole
  have hr : Revived name l₁ (l₂ ++ clearing uuid :: l₃) ↔ Revived name l₁ (l₂ ++ l₃) := by
    simp [Revived, not_sets_clearing, or_and_right, exists_or]
  have hs := whole.revived_iff.trans hr
  have hp := whole.isSome_uuids.trans hs
  refine ⟨hp, fun hn R _ s w hw => ?_, fun hn => ?_, fun ⟨e, he, hk, _⟩ => ?_, fun hn hk => ?_⟩
  · refine execute_uuid_of_none s (Option.not_isSome_iff_eq_none.1 fun h => hn (hp.1 ?_))
    rwa [hw] at h
  · obtain ⟨u, hu⟩ := Option.isSome_iff_exists.1 (hp.2 hn)
    refine ⟨u, fun s w hw => execute_uuid_of_ne s (hw ▸ hu) ?_⟩
    rintro rfl
    exact h.uuids_ne hu
  · exact h.isSome_machines.2 ⟨e, he, hk⟩
  · refine Option.not_isSome_iff_eq_none.1 fun hm => hk ?_
    obtain ⟨e, he, kept⟩ := h.isSome_machines.1 hm
    obtain ⟨a, b, rfl⟩ := List.append_of_mem he
    have hl : l₁ ++ removal name uuid :: (l₂ ++ clearing uuid :: (a ++ e :: b)) =
        l₁ ++ removal name uuid :: ((l₂ ++ clearing uuid :: a) ++ e :: b) := by simp
    rw [hl] at h
    refine ⟨e, he, kept, h.told (fun ⟨f, hf, sets⟩ => hn (hs.1 ⟨f, ?_, sets⟩))
      (h.told_of_keeps kept)⟩
    simp only [List.mem_append, List.mem_cons] at hf ⊢
    tauto

/-- Someone unregisters `name` while others look nodes up. -/
def departure (name : String) (calls : List Lookup) (n : Nodes) :
    Crowd (Nodes × Nat) (Except Error Unit) where
  store := (n, 0)
  members := (unregister name).run :: calls.map fun l => (l.attempt name).run

section

variable {o : Nat → (a : Action) → a.Answer} {name : String} {calls : List Lookup} {n : Nodes}
  {is : List Nat} {c : Crowd (Nodes × Nat) (Except Error Unit)}

theorem leaver_follow (h : (departure name calls n).follow (Nodes.serveAt o) is = some c) :
    (∀ p, c.members[0]? = some p → p.Obeys (departing name)
      (fun g r => ∀ a, r = .ok a → ∃ uuid, g = .gone uuid)
      ((departing name).stage .staying c.log 0)) ∧
    Throughout (fun l e => e.who = 0 →
      (departing name).may ((departing name).stage .staying l 0) e.action) c.log := by
  refine Crowd.obeys_follow rfl (fun p hp => ?_) h
  obtain rfl := Option.some.inj hp
  exact obeys_unregister

theorem reader_follow (h : (departure name calls n).follow (Nodes.serveAt o) is = some c) {i : Nat}
    (hi : i ≠ 0) : Throughout (fun l e => e.who = i →
      (reading name).may ((reading name).stage False l i) e.action) c.log := by
  have obeys (p : Proc (Except Error Unit)) (hp : (departure name calls n).members[i]? = some p) :
      p.Obeys (reading name) (fun _ r => ∀ a, r = .ok a → True) False := by
    obtain ⟨j, rfl⟩ := Nat.exists_eq_succ_of_ne_zero hi
    obtain ⟨l, -, rfl⟩ := List.mem_map.1 (List.mem_of_getElem? (List.getElem?_cons_succ ▸ hp))
    exact l.obeys name False
  exact (Crowd.obeys_follow rfl obeys h).2

theorem departs_follow (h : (departure name calls n).follow (Nodes.serveAt o) is = some c) :
    Departs name n c.log := by
  refine ⟨(Crowd.replay_follow rfl h).2, (leaver_follow h).2, fun l e l' hl hw => ?_⟩
  have hm := reader_follow h hw l e l' hl rfl
  rwa [propext (stage_reading name l e.who False), false_or] at hm

/-- Once a name was unregistered with success it is absent, and so is the machine that was under
its UUID, unless someone who was told of it before puts one of them back later. -/
theorem unregistered (h : (departure name calls n).follow (Nodes.serveAt o) is = some c)
    (returned : c.members[0]? = some (.done (.ok ()))) :
    ∃ uuid before between after,
      c.log = before ++ removal name uuid :: (between ++ clearing uuid :: after) ∧
        Aftermath name uuid before between after c.store.1 := by
  obtain ⟨uuid, hu⟩ := (leaver_follow h).1 _ returned () rfl
  obtain ⟨before, between, after, hl⟩ := exists_removal hu
  refine ⟨uuid, before, between, after, hl, ?_⟩
  rw [(Crowd.replay_follow rfl h).1, hl]
  exact (hl ▸ departs_follow h).aftermath

end

namespace Comeback

def answer : (a : Action) → a.Answer
  | .search q => .ok ⟨q.uuid, q.name, "a", ⟨"dc", "", "a"⟩, { id := "vm-1" }⟩
  | .clusterUuid _ => .ok "u"
  | .center _ | .connect _ | .client _ | .ask _ _ => .error Query.unfit
  | .sleep _ => ()
  | .nodes op => (Nodes.apply op {}).1

/-- The node has the UUID `uuid`. The call takes `k` steps, then the node is unregistered, and the
call takes two more. -/
def follow (uuid : String) (l : Lookup) (k : Nat) :
    Option (Crowd (Nodes × Nat) (Except Error Unit)) :=
  (departure "n" [l] { uuids := [("n", uuid)] }).follow (Nodes.serveAt fun _ => answer)
    (.replicate k 1 ++ .replicate 8 0 ++ .replicate 2 1)

/-- How the calls ended, the UUIDs that were taken from the node, and the nodes that are left. -/
structure Shows (c : Crowd (Nodes × Nat) (Except Error Unit)) (removed : List String)
    (uuids : Table String) (machines : List String) : Prop where
  members : c.members = [.done (.ok ()), .done (.ok ())]
  removed : c.log.filterMap (fun e => e.action.removed? "n" e.answer) = removed
  uuids : c.store.1.uuids = uuids
  machines : c.store.1.machines.map (·.1) = machines

theorem shows_machine : ∃ c, follow "u" .machine 2 = some c ∧ Shows c ["u"] [] ["u"] :=
  ⟨_, rfl, rfl, rfl, rfl, rfl⟩

theorem shows_uuid : ∃ c, follow "" .uuid 1 = some c ∧ Shows c [""] [("n", "u")] [] :=
  ⟨_, rfl, rfl, rfl, rfl, rfl⟩

theorem Shows.uuid_eq {c : Crowd (Nodes × Nat) (Except Error Unit)} {u uuid : String}
    {uuids : Table String} {machines : List String} {before after : List Deed}
    (h : Shows c [u] uuids machines) (hl : c.log = before ++ removal "n" uuid :: after) :
    uuid = u := by
  have hm : uuid ∈ c.log.filterMap fun e => e.action.removed? "n" e.answer :=
    List.mem_filterMap.2 ⟨_, hl ▸ List.mem_append_right _ List.mem_cons_self, removed_removal "n" _⟩
  rw [h.removed] at hm
  exact List.mem_singleton.1 hm

end Comeback

/-- The machine comes back when it is looked for in the meantime, and the name when its UUID is. -/
theorem unregistered_comeback :
    (∃ c before between after, Comeback.follow "u" .machine 2 = some c ∧
      c.members = [.done (.ok ()), .done (.ok ())] ∧
      c.log = before ++ removal "n" "u" :: (between ++ clearing "u" :: after) ∧
      Rekept "n" "u" before after ∧ (c.store.1.machines.get? "u").isSome = true) ∧
    ∃ c before between after, Comeback.follow "" .uuid 1 = some c ∧
      c.members = [.done (.ok ()), .done (.ok ())] ∧
      c.log = before ++ removal "n" "" :: (between ++ clearing "" :: after) ∧
      Revived "n" before (between ++ after) ∧ c.store.1.uuids.get? "n" = some "u" := by
  constructor
  · obtain ⟨c, hc, shows⟩ := Comeback.shows_machine
    obtain ⟨uuid, before, between, after, hl, h⟩ := unregistered hc (by rw [shows.members]; rfl)
    obtain rfl := shows.uuid_eq hl
    have hm : (c.store.1.machines.get? "u").isSome = true := by
      rw [← Table.mem_keys, shows.machines]
      exact List.mem_singleton_self _
    have hn : ¬ Revived "n" before (between ++ after) := by
      rw [← h.registered, shows.uuids]
      decide
    have hk : Rekept "n" "u" before after := Classical.byContradiction fun hk => by
      rw [h.missing hn hk] at hm
      cases hm
    exact ⟨c, before, between, after, hc, shows.members, hl, hk, hm⟩
  · obtain ⟨c, hc, shows⟩ := Comeback.shows_uuid
    obtain ⟨uuid, before, between, after, hl, h⟩ := unregistered hc (by rw [shows.members]; rfl)
    obtain rfl := shows.uuid_eq hl
    have hu : c.store.1.uuids.get? "n" = some "u" := by rw [shows.uuids]; decide
    exact ⟨c, before, between, after, hc, shows.members, hl, h.registered.1 (by rw [hu]; rfl), hu⟩

end Node

end StorageDriver
