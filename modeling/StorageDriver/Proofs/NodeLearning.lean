import StorageDriver.Proofs.NodeEffects

namespace StorageDriver.Node

open Attempt

variable {n : Nodes}

/-- What one can come to know of nodes without registering any: a UUID where there was none, and
machines under UUIDs that are registered or have one already. -/
inductive Learns (n : Nodes) : Nodes → Prop
  | refl : Learns n n
  | uuid {m : Nodes} (h : Learns n m) {name : String} (hu : m.uuids.get? name = some "")
    (uuid : String) : Learns n { m with uuids := m.uuids.put name uuid }
  | machine {m : Nodes} (h : Learns n m) {v : VirtualMachine}
    (hv : (∃ name, m.uuids.get? name = some v.uuid) ∨ m.machines.has v.uuid = true) :
    Learns n { m with machines := m.machines.put v.uuid v }

theorem Learns.trans {m k : Nodes} (h : Learns n m) (hk : Learns m k) : Learns n k := by
  induction hk with
  | refl => exact h
  | uuid _ hu u ih => exact ih.uuid hu u
  | machine _ hv ih => exact ih.machine hv

theorem leads_fetchUuid (name : String) (n : Nodes) :
    (fetchUuid name).Leads (fun r m => m = n ∧ ∀ uuid, r = .ok uuid → uuid ≠ "") n := by
  refine (leads_clusterUuid name).bind (fun uuid m hm => ?_) fun _ _ hm => ⟨hm, nofun⟩
  subst hm
  split
  · exact leads_throw ⟨rfl, nofun⟩
  · refine leads_pure ⟨rfl, fun u hu => ?_⟩
    obtain rfl := Except.ok.inj hu
    assumption

theorem leads_uuid (name : String) (n : Nodes) :
    (uuid name).Leads (fun r m => Learns n m ∧ m.machines = n.machines ∧
      ∀ u, r = .ok u → u ≠ "" ∧ m.uuids.get? name = some u) n := by
  unfold uuid
  refine leads_nodes_bind ?_
  simp only [Nodes.apply]
  cases hu : n.uuids.get? name with
  | none => exact leads_throw ⟨.refl, rfl, fun _ h => by cases h⟩
  | some known =>
    dsimp only
    split
    · refine leads_pure ⟨.refl, rfl, fun u h => ?_⟩
      obtain rfl := Except.ok.inj h
      exact ⟨‹_›, hu⟩
    · obtain rfl : known = "" := Decidable.not_not.1 ‹_›
      refine (leads_fetchUuid name n).bind (fun u m hm => ?_) fun e m hm => ?_
      · obtain ⟨rfl, hn⟩ := hm
        refine leads_nodes_bind (leads_pure ⟨.uuid .refl hu u, rfl, fun u' h => ?_⟩)
        obtain rfl := Except.ok.inj h
        exact ⟨hn _ rfl, by simp [Nodes.apply]⟩
      · obtain ⟨rfl, -⟩ := hm
        exact ⟨.refl, rfl, fun _ h => by cases h⟩

/-- What is fetched is kept under its own UUID. -/
inductive Fetches (uuid : String) (n : Nodes) : Except Error VirtualMachine → Nodes → Prop
  | missed (e : Error) : Fetches uuid n (.error e) n
  | got {v : VirtualMachine} (h : uuid ≠ "" → v.uuid = uuid) :
    Fetches uuid n (.ok v) { n with machines := n.machines.put v.uuid v }

theorem Finds.fetches {uuid name : String} {r : Except Error VirtualMachine} {m : Nodes}
    (h : Finds uuid name n r m) : Fetches uuid n r m := by
  cases h with
  | missed e => exact .missed e
  | found hv => exact .got hv.uuid

theorem leads_discover (uuid name : String) (n : Nodes) :
    (discover uuid name).Leads (fun _ m => ∃ r, Fetches uuid n r m) n :=
  (leads_find uuid name n).bind (fun _ _ h => leads_pure ⟨_, h.fetches⟩) fun _ _ h => ⟨_, h.fetches⟩

theorem leads_machine (uuid name : String)
    (named : ∀ v, n.machines.get? uuid = some v → v.uuid = uuid) :
    (machine uuid name).Leads (Fetches uuid n) n := by
  unfold machine
  refine leads_nodes_bind ?_
  simp only [Nodes.apply]
  cases hm : n.machines.get? uuid with
  | none => exact (leads_find uuid name n).mono fun _ _ h => h.fetches
  | some v =>
    refine (v.leads_renew true n).bind (fun v' m hm' => ?_) fun e m hm' => hm'.1 ▸ .missed e
    obtain ⟨rfl, hv⟩ := hm'
    obtain rfl : v'.uuid = uuid := (hv v' rfl).trans (named v hm)
    refine leads_nodes_bind (leads_pure ?_)
    simp only [Nodes.apply, Table.has_eq_isSome, hm, Option.isSome_some, if_true]
    exact .got fun _ => rfl

theorem leads_machineOf (name : String)
    (named : ∀ uuid v, n.machines.get? uuid = some v → v.uuid = uuid) :
    (machineOf name).Leads (fun _ m => Learns n m) n := by
  refine (leads_uuid name n).bind (fun u m hm => ?_) fun _ _ hm => hm.1
  obtain ⟨hl, hs, hu⟩ := hm
  refine (leads_machine u name fun v hv => named u v (hs ▸ hv)).mono fun r k hk => ?_
  cases hk with
  | missed e => exact hl
  | got hv =>
    obtain ⟨hne, hu⟩ := hu u rfl
    exact hl.machine (.inl ⟨name, (hv hne).symm ▸ hu⟩)

theorem leads_fill {names : List String} (distinct : names.Nodup)
    (blank : ∀ name ∈ names, n.uuids.get? name = some "") :
    (fill names).Leads (fun _ m => Learns n m ∧ m.machines = n.machines) n := by
  induction names generalizing n with
  | nil => exact leads_pure ⟨.refl, rfl⟩
  | cons name names ih =>
    obtain ⟨hn, distinct⟩ := List.nodup_cons.1 distinct
    unfold fill
    refine leads_outcome_bind (leads_fetchUuid name n) fun r m hm => ?_
    obtain ⟨rfl, -⟩ := hm
    cases r with
    | error e => exact ih distinct fun x hx => blank x (List.mem_cons_of_mem _ hx)
    | ok u =>
      have rest := ih (n := { m with uuids := m.uuids.put name u }) distinct fun x hx => ?_
      · exact leads_nodes_bind (rest.mono fun _ k hk =>
          ⟨(Learns.uuid .refl (blank name List.mem_cons_self) u).trans hk.1, hk.2⟩)
      · have hx' : name ≠ x := fun he => hn (he ▸ hx)
        rw [Table.get?_put, if_neg hx']
        exact blank x (List.mem_cons_of_mem _ hx)

theorem learns_refresh (n : Nodes) (v : VirtualMachine) :
    Learns n (n.apply (.refresh v.uuid v)).2 := by
  simp only [Nodes.apply]
  split
  · exact .machine .refl (.inr ‹_›)
  · exact .refl

theorem leads_renewAll (met : List String) {t : Table VirtualMachine}
    (named : ∀ p ∈ t, p.2.uuid = p.1) :
    (renewAll met t).Leads (fun r m => Learns n m ∧
      ∀ vs, r = .ok vs → vs.map (·.uuid) = t.map (·.1)) n := by
  induction t generalizing n met with
  | nil => exact leads_pure ⟨.refl, fun vs hv => Except.ok.inj hv ▸ rfl⟩
  | cons p t ih =>
    unfold renewAll
    refine (p.2.leads_renew _ n).bind (fun v m hm => ?_) fun _ _ hm => ⟨hm.1 ▸ .refl, nofun⟩
    obtain ⟨rfl, hv⟩ := hm
    have hp : v.uuid = p.1 := (hv v rfl).trans (named p List.mem_cons_self)
    rw [← hp]
    refine leads_nodes_bind ?_
    refine (ih _ fun q hq => named q (List.mem_cons_of_mem _ hq)).bind (fun vs k hk => ?_)
      fun _ _ hk => ⟨(learns_refresh m v).trans hk.1, nofun⟩
    refine leads_pure ⟨(learns_refresh m v).trans hk.1, fun vs' hvs => ?_⟩
    obtain rfl := Except.ok.inj hvs
    rw [List.map_cons, List.map_cons, hk.2 vs rfl, hp]

theorem leads_sweep (distinct : (n.uuids.map (·.1)).Nodup)
    (named : ∀ p ∈ n.machines, p.2.uuid = p.1) :
    sweep.Leads (fun r m => Learns n m ∧
      ∀ vs, r = .ok vs → vs.map (·.uuid) = n.machines.map (·.1)) n := by
  unfold sweep
  have hs : ((n.uuids.filter (·.2 = "")).map (·.1)).Sublist (n.uuids.map (·.1)) :=
    List.filter_sublist.map _
  have blank : ∀ name ∈ (n.uuids.filter (·.2 = "")).map (·.1), n.uuids.get? name = some "" := by
    intro name hn
    obtain ⟨p, hp, rfl⟩ := List.mem_map.1 hn
    obtain ⟨hp, hb⟩ := List.mem_filter.1 hp
    rw [Table.get?_of_mem distinct hp, decide_eq_true_iff.1 hb]
  refine leads_nodes_bind ((leads_fill (distinct.sublist hs) blank).bind (fun _ m hm => ?_)
    fun _ _ hm => ⟨hm.1, nofun⟩)
  obtain ⟨hl, hk⟩ := hm
  refine leads_nodes_bind ((leads_renewAll [] ?_).mono fun r k hr => ⟨hl.trans hr.1, ?_⟩)
  · exact fun p hp => named p (hk ▸ hp)
  · exact fun vs hv => hk ▸ hr.2 vs hv

end StorageDriver.Node
