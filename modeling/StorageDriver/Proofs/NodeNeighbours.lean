import StorageDriver.Proofs.NodeCache

namespace StorageDriver

namespace Node

/-- Whether `name` takes the machine under `old` with it when it is registered under `uuid`. -/
def Displaces (uuid name : String) (n : Nodes) (old : String) : Prop :=
  n.uuids.get? name = some old ∧ old ≠ "" ∧ old ≠ uuid

section

variable {uuid name v : String} {n k m : Nodes} {r : Except Error Unit}

theorem Enters.uuids (h : Enters uuid name n r k) {other : String} (hn : name ≠ other) :
    k.uuids.get? other = n.uuids.get? other := by
  cases h <;> simp [hn]

theorem Enters.isSome (h : Enters uuid name n (.ok ()) k) (hu : uuid ≠ "") :
    (k.machines.get? uuid).isSome = true := by
  cases h with
  | found hm =>
    have hm : _ = uuid := hm.uuid hu
    simp [hm]

theorem Enters.keeps (h : Enters uuid name n r k)
    (hd : ¬ (Displaces uuid name n v ∧ k.uuids.get? name ≠ some v))
    (hv : (n.machines.get? v).isSome = true) : (k.machines.get? v).isSome = true := by
  cases h with
  | missed e =>
    have hs : ¬ Displaces uuid name n v := by
      intro hs
      refine hd ⟨hs, fun hu => hs.2.2 ?_⟩
      rw [Table.get?_put, if_pos rfl] at hu
      exact (Option.some.inj hu).symm
    rwa [(get?_staying n uuid name v).trans (if_neg hs)]
  | @found m hm =>
    rw [Table.get?_put, if_pos rfl] at hd
    rw [Table.get?_put]
    split
    · rfl
    · have hs : ¬ Displaces uuid name n v := fun hs => hd ⟨hs, fun hu => by simp_all⟩
      rwa [(get?_staying n uuid name v).trans (if_neg hs)]

theorem Enters.loses (h : Enters uuid name n r k) (hd : Displaces uuid name n v)
    (hk : k.uuids.get? name ≠ some v) : k.machines.get? v = none := by
  cases h with
  | missed e => exact (get?_staying n uuid name v).trans (if_pos hd)
  | @found m hm =>
    rw [Table.get?_put, if_pos rfl] at hk
    rw [Table.get?_put, if_neg fun he => hk (congrArg some he)]
    exact (get?_staying n uuid name v).trans (if_pos hd)

theorem Leaves.uuids (h : Leaves name n r m) {other : String} (hn : name ≠ other) :
    m.uuids.get? other = n.uuids.get? other := by
  cases h <;> simp [hn]

theorem Leaves.keeps (h : Leaves name n r m) (hd : n.uuids.get? name ≠ some v) :
    m.machines.get? v = n.machines.get? v := by
  cases h with
  | unknown => rfl
  | @known uuid hu =>
    have hv : uuid ≠ v := fun he => hd (he ▸ hu)
    simp [hv]

theorem Leaves.loses (h : Leaves name n r m) (hd : n.uuids.get? name = some v) :
    m.machines.get? v = none := by
  cases h with
  | unknown hu => exact nomatch hu.symm.trans hd
  | known hu =>
    obtain rfl := Option.some.inj (hu.symm.trans hd)
    simp

end

variable {R : Type} [Remote R]

/-- There is a machine under `uuid`, and whoever sweeps the nodes with success gets it. -/
structure Discovered (uuid : String) (w : World R) : Prop where
  kept : (w.nodes.machines.get? uuid).isSome = true
  swept : ∀ (s : Setting) (net : Network R) vs w', sweep.Runs s { w with net := net } (.ok vs) w' →
    ∃ v ∈ vs, v.uuid = uuid

structure Missing (uuid : String) (w : World R) : Prop where
  kept : w.nodes.machines.get? uuid = none
  swept : ∀ (s : Setting) (net : Network R) vs w', sweep.Runs s { w with net := net } (.ok vs) w' →
    ∀ v ∈ vs, v.uuid ≠ uuid

section

variable {w w' : World R} {uuid : String}

theorem exists_swept (hw : w.nodes.Sound) {s : Setting} {net : Network R}
    {vs : List VirtualMachine} (h : sweep.Runs s { w with net := net } (.ok vs) w') :
    (∃ v ∈ vs, v.uuid = uuid) ↔ (w.nodes.machines.get? uuid).isSome = true := by
  have hs : vs.map (·.uuid) = w.nodes.machines.map (·.1) :=
    ((leads_sweep hw.distinct hw.named).runs (w := { w with net := net }) h).2 vs rfl
  rw [← Table.mem_keys, ← hs, List.mem_map]

theorem discovered_of_isSome (hw : w.nodes.Sound)
    (h : (w.nodes.machines.get? uuid).isSome = true) : Discovered uuid w :=
  ⟨h, fun _ _ _ _ hv => (exists_swept hw hv).2 h⟩

theorem missing_of_none (hw : w.nodes.Sound) (h : w.nodes.machines.get? uuid = none) :
    Missing uuid w := by
  refine ⟨h, fun s net vs w' hv v hm he => ?_⟩
  have hs := (exists_swept hw hv).1 ⟨v, hm, he⟩
  rw [h] at hs
  cases hs

end

/-- Who registers or unregisters `a` leaves `b` its UUID, and its machine unless `a` had the same
UUID and lost it: then the machine is gone for `b` as well. -/
theorem Reachable.neighbours {may : Demand → Prop} {w : World R} (h : Reachable may w)
    {a b uuid : String} (hab : a ≠ b) (hb : w.nodes.uuids.get? b = some uuid) :
    (∀ s u r w', (register u a).Runs s w r w' → w'.nodes.uuids.get? b = some uuid ∧
      (¬ (Displaces u a w.nodes uuid ∧ w'.nodes.uuids.get? a ≠ some uuid) →
        (w.nodes.machines.get? uuid).isSome = true → Discovered uuid w') ∧
      (Displaces u a w.nodes uuid → w'.nodes.uuids.get? a ≠ some uuid → Missing uuid w')) ∧
    ∀ s r w', (unregister a).Runs s w r w' → w'.nodes.uuids.get? b = some uuid ∧
      (w.nodes.uuids.get? a ≠ some uuid → (w.nodes.machines.get? uuid).isSome = true →
        Discovered uuid w') ∧
      (w.nodes.uuids.get? a = some uuid → Missing uuid w') := by
  have hw := h.sound
  refine ⟨fun s u r w' hr => ?_, fun s r w' hr => ?_⟩
  · have hs : w'.nodes.Sound := Demand.sound (d := .register u a) hw hr
    obtain ⟨k, hk, he⟩ := (leads_register u (hw.idle a)).runs hr
    have hu : w'.nodes.uuids = k.uuids := by rw [he]; rfl
    have hm : w'.nodes.machines = k.machines := by rw [he]; rfl
    rw [hu]
    refine ⟨(hk.uuids hab).trans hb, fun hd hv => ?_, fun hd hn => ?_⟩
    · exact discovered_of_isSome hs (hm ▸ hk.keeps hd hv)
    · exact missing_of_none hs (hm ▸ hk.loses hd hn)
  · have hs : w'.nodes.Sound := Demand.sound (d := .unregister a) hw hr
    have hl := (leads_unregister (hw.idle a)).runs hr
    refine ⟨(hl.uuids hab).trans hb, fun hd hv => ?_, fun hd => ?_⟩
    · exact discovered_of_isSome hs ((congrArg Option.isSome (hl.keeps hd)).trans hv)
    · exact missing_of_none hs (hl.loses hd)

/-- A node that was renamed loses its machine when the old name is unregistered. -/
theorem Reachable.neighbours_renamed : ∃ w w' : World Fleet, ∃ r,
    Reachable (fun d => d.isNamed = true) w ∧ w.nodes.uuids.get? "n" = some "u" ∧
      Discovered "u" w ∧ (unregister "a").Runs {} w r w' ∧
      w'.nodes.uuids.get? "n" = some "u" ∧ Missing "u" w' := by
  have h₀ : Reachable (fun d => d.isNamed = true) Lone.world := .start Lone.world.net
  have first := Attempt.runs_execute {} (register "u" "a") Lone.world
  have h₁ := (h₀.meet (d := .register "u" "a") rfl first).meanwhile Lone.world.net
  obtain ⟨w, second⟩ := Lone.register ((register "u" "a").execute {} Lone.world).2.nodes
  have h₂ := h₁.meet (d := .register "u" "n") rfl second
  obtain ⟨k₁, hk₁, he₁⟩ := (leads_register "u" (h₀.sound.idle "a")).runs first
  obtain ⟨k₂, hk₂, he₂⟩ := (leads_register "u" (h₁.sound.idle "n")).runs second
  have hu : "u" ≠ "" := by decide
  have ha := (hk₂.uuids (by decide)).trans
    ((congrArg (·.uuids.get? "a") he₁).trans (hk₁.uuid_eq hu))
  have hd := discovered_of_isSome h₂.sound
    ((congrArg (fun n => (n.machines.get? "u").isSome) he₂).trans (hk₂.isSome hu))
  have hn := (congrArg (·.uuids.get? "n") he₂).trans (hk₂.uuid_eq hu)
  have third := Attempt.runs_execute {} (unregister "a") w
  obtain ⟨hn', -, hm⟩ := (h₂.neighbours (a := "a") (by decide) hn).2 _ _ _ third
  exact ⟨w, _, _, h₂, hn, hd, third, hn', hm ((congrArg (·.uuids.get? "a") he₂).trans ha)⟩

end Node

end StorageDriver
