import Mathlib.Data.List.Nodup
import StorageDriver.Proofs.Histories

namespace StorageDriver

/-- The volume that there has to be for a command. -/
def Command.about? : Command → Option String
  | .deleteVolume id _ => some id
  | .putVolume doc => some doc.id
  | _ => none

namespace Plane

def kinds : List String := ["vm", "vol", "task"]

def number (n : Nat) (ks : List String) : List String :=
  (ks.zipIdx n).map fun k => s!"{k.1}-{k.2}"

theorem number_append (n : Nat) (as bs : List String) :
    number n (as ++ bs) = number n as ++ number (n + as.length) bs := by
  rw [number, List.zipIdx_append, List.map_append]
  rfl

theorem nodup_number {ks : List String} (h : ks ⊆ kinds) (n : Nat) : (number n ks).Nodup := by
  have plain : ∀ k ∈ ks.zipIdx n, '-' ∉ k.1.toList := by
    intro k hk
    have all : ∀ kind ∈ kinds, '-' ∉ kind.toList := by decide
    exact all _ (h (List.fst_mem_of_mem_zipIdx hk))
  have distinct : (ks.zipIdx n).Nodup := by
    refine .of_map Prod.snd ?_
    rw [List.zipIdx_map_snd]
    exact List.nodup_range'
  refine distinct.map_on fun a ha b hb he => ?_
  obtain ⟨h1, h2⟩ := id_inj (plain a ha) he
  exact Prod.ext h1 h2

/-- What was done to a plane, as far as ids go: `new` are given out, and the machines and the
volumes have ids that they had before or that are given out. -/
structure Issues (p : Plane) (new : List String) (q : Plane) : Prop where
  numbered : ∃ ks ⊆ kinds, new = number p.nextId ks ∧ q.nextId = p.nextId + ks.length
  machines : (q.machines.map (·.id)).Sublist (p.machines.map (·.id) ++ new)
  volumes : (q.volumes.map (·.id)).Sublist (p.volumes.map (·.id) ++ new)

namespace Issues

variable {p q r : Plane} {as bs : List String}

theorem none (hn : q.nextId = p.nextId)
    (hm : (q.machines.map (·.id)).Sublist (p.machines.map (·.id)))
    (hv : (q.volumes.map (·.id)).Sublist (p.volumes.map (·.id))) : p.Issues [] q where
  numbered := ⟨[], List.nil_subset _, rfl, hn⟩
  machines := (List.append_nil _).symm ▸ hm
  volumes := (List.append_nil _).symm ▸ hv

theorem of_estate (h : q.estate = p.estate) : p.Issues [] q := by
  have hn : q.estate.nextId = p.estate.nextId := congrArg nextId h
  have hm : q.estate.machines = p.estate.machines := congrArg Plane.machines h
  have hv : q.estate.volumes = p.estate.volumes := congrArg Plane.volumes h
  exact none hn (hm ▸ .refl _) (hv ▸ .refl _)

theorem trans (h : p.Issues as q) (k : q.Issues bs r) : p.Issues (as ++ bs) r where
  numbered := by
    obtain ⟨ks, hk, rfl, hn⟩ := h.numbered
    obtain ⟨ls, hl, rfl, hm⟩ := k.numbered
    refine ⟨ks ++ ls, List.append_subset.2 ⟨hk, hl⟩, ?_, ?_⟩
    · rw [number_append, hn]
    · rw [hm, hn, List.length_append, Nat.add_assoc]
  machines := by
    rw [← List.append_assoc]
    exact k.machines.trans (h.machines.append_right bs)
  volumes := by
    rw [← List.append_assoc]
    exact k.volumes.trans (h.volumes.append_right bs)

theorem addVm (p : Plane) (datacenter name uuid : String) :
    p.Issues [(p.addVm datacenter name uuid).1] (p.addVm datacenter name uuid).2 where
  numbered := ⟨["vm"], by decide, rfl, rfl⟩
  machines := by
    obtain ⟨m, hid, hm⟩ := p.exists_addVm datacenter name uuid
    rw [hm, List.map_append, List.map_singleton, hid]
    exact .refl _
  volumes := List.sublist_append_left _ _

theorem addVolume (p : Plane) (dataStore name : String) (size : Double) :
    p.Issues [(p.addVolume dataStore name size).1] (p.addVolume dataStore name size).2 where
  numbered := ⟨["vol"], by decide, rfl, rfl⟩
  machines := List.sublist_append_left _ _
  volumes := by
    simp only [Plane.addVolume, freshId, List.map_append, List.map_singleton]
    exact .refl _

theorem accept (h : p.Issues as q) :
    p.Issues (as ++ q.accept.1.toOption.toList.map (·.id)) q.accept.2 := by
  have task : q.Issues [q.startTask.1.id] q.accept.2 := {
    numbered := ⟨["task"], by decide, rfl, rfl⟩
    machines := List.sublist_append_left _ _
    volumes := List.sublist_append_left _ _ }
  exact h.trans task

end Issues

/-- What is answered to a command about documents and what then becomes of the plane. -/
inductive Obeys (p : Plane) : Command → Except Error Task × Plane → Prop
  | putMachine {doc : VmInfo} (known : doc.id ∈ p.machines.map (·.id)) :
    Obeys p (.putMachine doc) (accept { p with
      machines := stored doc p.machines, calls := { p.calls with setVm := p.calls.setVm + 1 } })
  | noMachine {doc : VmInfo} (unknown : doc.id ∉ p.machines.map (·.id)) :
    Obeys p (.putMachine doc)
      (.error (notFound "vm" doc.id),
        { p with calls := { p.calls with setVm := p.calls.setVm + 1 } })
  | createVolume {order : VolumeOrder} {size : Double}
      (read : Double.ofText order.size.toList = .ok size) :
    Obeys p (.createVolume order) (accept (p.addVolume order.dataStore order.name size).2)
  | badSize {order : VolumeOrder} {e : Double.TextFault}
      (read : Double.ofText order.size.toList = .error e) :
    Obeys p (.createVolume order)
      (.error (.rest 400 ("invalid size " ++ Text.quote order.size ++ ": " ++ e.message)), p)
  | deleteVolume {id : String} {wipe : Bool} (known : id ∈ p.volumes.map (·.id)) :
    Obeys p (.deleteVolume id wipe) (accept { p with volumes := p.volumes.filter (·.id ≠ id) })
  | putVolume {doc : VolumeInfo} (known : doc.id ∈ p.volumes.map (·.id)) :
    Obeys p (.putVolume doc)
      (accept { p with volumes := modifyFirst (·.id = doc.id) (fun _ => doc) p.volumes })
  | noVolume {c : Command} {id : String} (about : c.about? = some id)
      (unknown : id ∉ p.volumes.map (·.id)) :
    Obeys p c (.error (notFound "volume" id), p)

theorem any_id {α : Type} {key : α → String} {as : List α} {id : String} :
    as.any (fun a => key a = id) = true ↔ id ∈ as.map key := by
  simp [List.mem_map]

theorem obeys (p : Plane) (c : Command) : p.Obeys c (p.obey c) := by
  cases c with
  | putMachine doc =>
    simp only [obey]
    split
    · exact .putMachine (any_id.1 ‹_›)
    · exact .noMachine (mt any_id.2 ‹_›)
  | createVolume order =>
    simp only [obey]
    split
    · exact .createVolume ‹_›
    · exact .badSize ‹_›
  | deleteVolume id wipe =>
    simp only [obey]
    split
    · exact .deleteVolume (any_id.1 ‹_›)
    · exact .noVolume rfl (mt any_id.2 ‹_›)
  | putVolume doc =>
    simp only [obey]
    split
    · exact .putVolume (any_id.1 ‹_›)
    · exact .noVolume rfl (mt any_id.2 ‹_›)

inductive Move
  | setUp (x : Setup)
  | connect (host : String)
  | start (q : Request)
  | finish (q : Request)

namespace Move

def apply (p : Plane) : Move → Plane
  | setUp x => x.apply p
  | connect host => (p.connect host).2
  | start q => (p.start q).2
  | finish q => (p.finish q).2

def made (p : Plane) : Command → List String
  | .createVolume order =>
    match Double.ofText order.size.toList with
    | .ok size => [(p.addVolume order.dataStore order.name size).1]
    | .error _ => []
  | _ => []

/-- The ids that are given out, in the order of their numbers. -/
def issued (p : Plane) : Move → List String
  | setUp (.vm datacenter name uuid) => [(p.addVm datacenter name uuid).1]
  | setUp (.volume dataStore name size) => [(p.addVolume dataStore name size).1]
  | finish (.command c) => made p c ++ (p.obey c).1.toOption.toList.map (·.id)
  | _ => []

end Move

def after (p : Plane) (ms : List Move) : Plane := ms.foldl Move.apply p

/-- The ids that a plane gives out, the oldest first. -/
def given (p : Plane) : List Move → List String
  | [] => []
  | m :: ms => m.issued p ++ given (m.apply p) ms

namespace Issues

variable {p : Plane}

theorem obey (p : Plane) (c : Command) :
    p.Issues (Move.issued p (.finish (.command c))) (p.obey c).2 := by
  have h := p.obeys c
  simp only [Move.issued]
  generalize p.obey c = r at h ⊢
  cases h with
  | @putMachine doc known =>
    have ids := ids_stored doc p.machines
    exact accept (none rfl (ids ▸ .refl _) (.refl _))
  | @createVolume order size read =>
    have made : Move.made p (.createVolume order) =
        [(p.addVolume order.dataStore order.name size).1] := by
      simp only [Move.made, read]
    rw [made]
    exact accept (addVolume p order.dataStore order.name size)
  | @badSize order e read =>
    have made : Move.made p (.createVolume order) = [] := by simp only [Move.made, read]
    rw [made]
    exact none rfl (.refl _) (.refl _)
  | deleteVolume known =>
    exact accept (none rfl (.refl _) (List.filter_sublist.map _))
  | @putVolume doc known =>
    have ids : (modifyFirst (·.id = doc.id) (fun _ => doc) p.volumes).map (·.id) =
        p.volumes.map (·.id) :=
      map_modifyFirst (fun _ h => (of_decide_eq_true h).symm) p.volumes
    exact accept (none rfl (.refl _) (ids ▸ .refl _))
  | noMachine unknown => exact none rfl (.refl _) (.refl _)
  | @noVolume c id about unknown =>
    have made : Move.made p c = [] := by
      cases c with
      | createVolume order => cases about
      | _ => rfl
    rw [made]
    exact none rfl (.refl _) (.refl _)

theorem move (p : Plane) (m : Move) : p.Issues (m.issued p) (m.apply p) := by
  cases m with
  | setUp x =>
    cases x with
    | vm datacenter name uuid => exact addVm p datacenter name uuid
    | volume dataStore name size => exact addVolume p dataStore name size
    | vmState id state =>
      have ids : (Setup.apply p (.vmState id state)).machines.map (·.id) =
          p.machines.map (·.id) :=
        map_modifyFirst (f := fun i => { i with state := state }) (fun _ _ => rfl) p.machines
      exact none rfl (ids ▸ .refl _) (.refl _)
    | _ => exact none rfl (.refl _) (.refl _)
  | connect host => exact of_estate (p.estate_connect host)
  | start q => exact of_estate (p.estate_start q)
  | finish q =>
    cases q with
    | command c => exact obey p c
    | _ => exact of_estate (p.estate_finish trivial)

theorem after (p : Plane) (ms : List Move) : p.Issues (p.given ms) (p.after ms) := by
  induction ms generalizing p with
  | nil => exact none rfl (.refl _) (.refl _)
  | cons m ms ih => exact (move p m).trans (ih (m.apply p))

end Issues

/-- The one member with this id is replaced by `new`, where it stands. -/
inductive Exchanged {α : Type} (key : α → String) (id : String) (new : List α) :
    List α → List α → Prop
  | here {before after : List α} {old : α} (found : key old = id)
      (only : ∀ a ∈ before ++ after, key a ≠ id) :
    Exchanged key id new (before ++ old :: after) (before ++ new ++ after)

section

variable {α : Type} {key : α → String} {id : String} {as before after : List α}

theorem exists_only (h : (as.map key).Nodup) (known : id ∈ as.map key) :
    ∃ before old after, as = before ++ old :: after ∧ key old = id ∧
      ∀ a ∈ before ++ after, key a ≠ id := by
  obtain ⟨old, hm, rfl⟩ := List.mem_map.1 known
  obtain ⟨before, after, rfl⟩ := List.append_of_mem hm
  rw [List.map_append, List.map_cons, List.nodup_middle, List.nodup_cons, ← List.map_append] at h
  exact ⟨before, old, after, rfl, rfl, fun a ha he => h.1 (he ▸ List.mem_map_of_mem ha)⟩

theorem modifyFirst_append_cons {hit : α → Bool} {f : α → α} {old : α}
    (hb : ∀ a ∈ before, hit a = false) (ho : hit old = true) :
    modifyFirst hit f (before ++ old :: after) = before ++ f old :: after := by
  induction before with
  | nil => rw [List.nil_append, modifyFirst, if_pos ho, List.nil_append]
  | cons b before ih =>
    rw [List.cons_append, modifyFirst, if_neg (by simp [hb b List.mem_cons_self]),
      ih fun a ha => hb a (List.mem_cons_of_mem _ ha), List.cons_append]

theorem exchanged_modifyFirst (h : (as.map key).Nodup) (known : id ∈ as.map key) (new : α) :
    Exchanged key id [new] as (modifyFirst (fun a => key a = id) (fun _ => new) as) := by
  obtain ⟨before, old, after, rfl, found, only⟩ := exists_only h known
  have here : Exchanged key id [new] (before ++ old :: after) (before ++ [new] ++ after) :=
    .here found only
  rw [modifyFirst_append_cons
    (fun a ha => decide_eq_false (only a (List.mem_append_left _ ha))) (decide_eq_true found)]
  rwa [List.append_assoc] at here

theorem exchanged_filter (h : (as.map key).Nodup) (known : id ∈ as.map key) :
    Exchanged key id [] as (as.filter fun a => key a ≠ id) := by
  obtain ⟨before, old, after, rfl, found, only⟩ := exists_only h known
  have here : Exchanged key id [] (before ++ old :: after) (before ++ [] ++ after) :=
    .here found only
  have others : ∀ a ∈ before ++ after, decide (key a ≠ id) = true :=
    fun a ha => decide_eq_true (only a ha)
  rw [List.filter_append, List.filter_cons_of_neg (by simp [found]), ← List.filter_append,
    List.filter_eq_self.2 others]
  rwa [List.append_nil] at here

end

/-- The plane has no such thing. It says so, and nothing changes but how often it was called. -/
def Refused (p : Plane) (what id : String) (r : Except Error Task × Plane) : Prop :=
  ∃ n, r = (.error (.rest 404 s!"{what} {id} not found"),
    { p with calls := { p.calls with setVm := n } })

/-- A command about the `what` called `id`. It is obeyed, and a task started, if the id is one of
those that there are. Else it is refused. -/
def Heeds (p : Plane) (c : Command) (what id : String) (there : List String)
    (done : Plane → Prop) : Prop :=
  (id ∈ there → ∃ t q, p.obey c = (.ok t, q) ∧ done q) ∧
    (id ∉ there → p.Refused what id (p.obey c))

section

variable {host : String} {p : Plane} {ids : List String}

theorem heeds_putMachine (machines : (p.machines.map (·.id)).Nodup) (doc : VmInfo) :
    p.Heeds (.putMachine doc) "vm" doc.id (p.machines.map (·.id)) fun q =>
      Exchanged (·.id) doc.id [kept doc] p.machines q.machines ∧
      q.volumes = p.volumes ∧ q.datacenters = p.datacenters := by
  have h := p.obeys (.putMachine doc)
  unfold Heeds
  generalize p.obey (.putMachine doc) = r at h ⊢
  cases h with
  | putMachine known =>
    exact ⟨fun _ => ⟨_, _, rfl, exchanged_modifyFirst machines known (kept doc), rfl, rfl⟩,
      fun unknown => absurd known unknown⟩
  | noMachine unknown => exact ⟨fun known => absurd known unknown, fun _ => ⟨_, rfl⟩⟩
  | noVolume about unknown => cases about

theorem heeds_putVolume (volumes : (p.volumes.map (·.id)).Nodup) (doc : VolumeInfo) :
    p.Heeds (.putVolume doc) "volume" doc.id (p.volumes.map (·.id)) fun q =>
      Exchanged (·.id) doc.id [doc] p.volumes q.volumes ∧
      q.machines = p.machines ∧ q.datacenters = p.datacenters := by
  have h := p.obeys (.putVolume doc)
  unfold Heeds
  generalize p.obey (.putVolume doc) = r at h ⊢
  cases h with
  | putVolume known =>
    exact ⟨fun _ => ⟨_, _, rfl, exchanged_modifyFirst volumes known doc, rfl, rfl⟩,
      fun unknown => absurd known unknown⟩
  | noVolume about unknown =>
    obtain rfl := Option.some.inj about
    exact ⟨fun known => absurd known unknown, fun _ => ⟨_, rfl⟩⟩

theorem heeds_deleteVolume (volumes : (p.volumes.map (·.id)).Nodup) (id : String) (wipe : Bool) :
    p.Heeds (.deleteVolume id wipe) "volume" id (p.volumes.map (·.id)) fun q =>
      Exchanged (·.id) id [] p.volumes q.volumes ∧
      q.machines = p.machines ∧ q.datacenters = p.datacenters := by
  have h := p.obeys (.deleteVolume id wipe)
  unfold Heeds
  generalize p.obey (.deleteVolume id wipe) = r at h ⊢
  cases h with
  | deleteVolume known =>
    exact ⟨fun _ => ⟨_, _, rfl, exchanged_filter volumes known, rfl, rfl⟩,
      fun unknown => absurd known unknown⟩
  | noVolume about unknown =>
    obtain rfl := Option.some.inj about
    exact ⟨fun known => absurd known unknown, fun _ => ⟨_, rfl⟩⟩

namespace Issues

variable {q : Plane}

theorem nodup (h : p.Issues ids q) : ids.Nodup := by
  obtain ⟨ks, hk, rfl, -⟩ := h.numbered
  exact nodup_number hk p.nextId

theorem number_lt (h : Issues { host := host } ids p) (few : ids.length < 2 ^ 64) {id : String}
    (hi : id ∈ ids) : ∃ kind ∈ kinds, ∃ k : UInt64, id = s!"{kind}-{k}" ∧ k.toNat < p.nextId ∧
      (ids.length + 1 < 2 ^ 64 → k < UInt64.ofNat p.nextId) := by
  obtain ⟨ks, hk, rfl, hn⟩ := h.numbered
  obtain ⟨⟨kind, k⟩, hm, rfl⟩ := List.mem_map.1 hi
  have length : (number (Plane.nextId { host := host }) ks).length = ks.length := by simp [number]
  rw [length] at few ⊢
  have low : k < 1 + ks.length := (List.mem_zipIdx hm).2.1
  have below : k < p.nextId := hn ▸ low
  have small : k < UInt64.size := by
    rw [UInt64.size]
    omega
  have fits : (UInt64.ofNat k).toNat = k := UInt64.toNat_ofNat_of_lt' small
  refine ⟨kind, hk (List.fst_mem_of_mem_zipIdx hm), .ofNat k, ?_, fits.symm ▸ below, fun room => ?_⟩
  · show s!"{kind}-{k}" = s!"{kind}-{(UInt64.ofNat k).toNat}"
    rw [fits]
  · have next : p.nextId < UInt64.size := by
      rw [hn, UInt64.size]
      show 1 + ks.length < _
      omega
    rw [UInt64.lt_iff_toNat_lt, fits, UInt64.toNat_ofNat_of_lt' next]
    exact below

theorem fresh (h : q.Issues ids p) (m : Move) :
    (m.issued p).Nodup ∧ ∀ id ∈ m.issued p, id ∉ ids := by
  obtain ⟨-, nodup, disjoint⟩ := List.nodup_append.1 (h.trans (move p m)).nodup
  exact ⟨nodup, fun id hi ho => disjoint id ho id hi rfl⟩

end Issues

/-- Every id that a plane gives out is another, and every document is the only one with its id. So
a command changes the one document that it names, or nothing. The counter, which has 64 bits,
is above all numbers it gave out until it turns over. -/
theorem identity (host : String) (ms : List Move) :
    let p := after { host := host } ms
    let ids := given { host := host } ms
    ids.length < 2 ^ 64 →
    (p.machines.map (·.id)).Nodup ∧ (p.volumes.map (·.id)).Nodup ∧
    (∀ id ∈ ids, ∃ kind ∈ kinds, ∃ k : UInt64, id = s!"{kind}-{k}" ∧ k.toNat < p.nextId ∧
      (ids.length + 1 < 2 ^ 64 → k < UInt64.ofNat p.nextId)) ∧
    (∀ m : Move, (m.issued p).Nodup ∧ ∀ id ∈ m.issued p, id ∉ ids) ∧
    (∀ doc : VmInfo, p.Heeds (.putMachine doc) "vm" doc.id (p.machines.map (·.id)) fun q =>
      Exchanged (·.id) doc.id [kept doc] p.machines q.machines ∧
      q.volumes = p.volumes ∧ q.datacenters = p.datacenters) ∧
    (∀ doc : VolumeInfo, p.Heeds (.putVolume doc) "volume" doc.id (p.volumes.map (·.id)) fun q =>
      Exchanged (·.id) doc.id [doc] p.volumes q.volumes ∧
      q.machines = p.machines ∧ q.datacenters = p.datacenters) ∧
    ∀ (id : String) (wipe : Bool),
      p.Heeds (.deleteVolume id wipe) "volume" id (p.volumes.map (·.id)) fun q =>
        Exchanged (·.id) id [] p.volumes q.volumes ∧
        q.machines = p.machines ∧ q.datacenters = p.datacenters := by
  intro p ids few
  have h : Issues { host := host } ids p := .after _ ms
  have machines : (p.machines.map (·.id)).Nodup := h.nodup.sublist h.machines
  have volumes : (p.volumes.map (·.id)).Nodup := h.nodup.sublist h.volumes
  exact ⟨machines, volumes, fun _ hi => h.number_lt few hi, h.fresh, heeds_putMachine machines,
    heeds_putVolume volumes, heeds_deleteVolume volumes⟩

/-- A machine and two volumes, one of which is deleted again. -/
theorem identity_of_three :
    let moves : List Move := [.setUp (.vm "dc" "m" "u"), .setUp (.volume "ds" "pvc" (.ofNat 1)),
      .finish (.command (.createVolume ⟨"pvc", "2", "", "ds", "", "", false, false⟩)),
      .finish (.command (.deleteVolume "vol-2" true))]
    let p := after { host := "a" } moves
    let ids := ["vm-1", "vol-2", "vol-3", "task-4", "task-5"]
    given { host := "a" } moves = ids ∧ p.volumes.map (·.id) = ["vol-3"] ∧
    (∀ id ∈ ids, ∃ kind ∈ kinds, ∃ k : UInt64, id = s!"{kind}-{k}" ∧ k < 6) ∧
    "vm-6" ∉ ids ∧
    p.Refused "vm" "vol-3" (p.obey (.putMachine { id := "vol-3" })) ∧
    p.Refused "volume" "vol-2" (p.obey (.deleteVolume "vol-2" true)) ∧
    ∃ t q, p.obey (.deleteVolume "vol-3" true) = (.ok t, q) ∧
      Exchanged (·.id) "vol-3" [] p.volumes q.volumes := by
  intro moves p ids
  have given : given { host := "a" } moves = ids := by decide +kernel
  have machines : p.machines.map (·.id) = ["vm-1"] := by decide +kernel
  have volumes : p.volumes.map (·.id) = ["vol-3"] := by decide +kernel
  obtain ⟨-, -, numbers, fresh, machine, -, volume⟩ := identity "a" moves (given ▸ by decide)
  refine ⟨given, volumes, fun id hi => ?_, ?_, ?_, ?_, ?_⟩
  · obtain ⟨kind, hk, k, he, -, hc⟩ := numbers id (given ▸ hi)
    exact ⟨kind, hk, k, he, hc (given ▸ by decide)⟩
  · exact given ▸ (fresh (.setUp (.vm "dc" "n" ""))).2 "vm-6" (by decide +kernel)
  · exact (machine { id := "vol-3" }).2 (by rw [machines]; decide)
  · exact (volume "vol-2" true).2 (by rw [volumes]; decide)
  · obtain ⟨t, q, ho, here, -⟩ := (volume "vol-3" true).1 (by rw [volumes]; decide)
    exact ⟨t, q, ho, here⟩

end

end Plane

end StorageDriver
