import StorageDriver.Proofs.NodeMachines

namespace StorageDriver

/-- The disk `d` as it may be later: only a SCSI id that it lacked can be given to it. -/
def DiskInfo.Becomes (d e : DiskInfo) : Prop :=
  e = d ∨ d.scsi = "" ∧ ∃ scsi, e = { d with scsi := scsi }

theorem DiskInfo.Becomes.trans {d e f : DiskInfo} (h : d.Becomes e) (h' : e.Becomes f) :
    d.Becomes f := by
  obtain rfl | ⟨hd, scsi, rfl⟩ := h
  · exact h'
  · obtain rfl | ⟨-, scsi', rfl⟩ := h'
    · exact .inr ⟨hd, scsi, rfl⟩
    · exact .inr ⟨hd, scsi', rfl⟩

theorem DiskInfo.Becomes.volume_eq {d e : DiskInfo} (h : d.Becomes e) : e.volume = d.volume := by
  obtain rfl | ⟨-, scsi, rfl⟩ := h <;> rfl

namespace VmInfo

variable {i j k : VmInfo} {id : String}

def Grows (i j : VmInfo) : Prop := ∀ d ∈ i.disks, ∃ e ∈ j.disks, d.Becomes e

/-- A disk of the machine has the volume behind it. -/
def Backs (i : VmInfo) (id : String) : Prop := ∃ d ∈ i.disks, d.volume.id = id

theorem Grows.refl (i : VmInfo) : i.Grows i := fun d hd => ⟨d, hd, .inl rfl⟩

theorem Grows.trans (h : i.Grows j) (h' : j.Grows k) : i.Grows k := by
  intro d hd
  obtain ⟨e, he, hde⟩ := h d hd
  obtain ⟨f, hf, hef⟩ := h' e he
  exact ⟨f, hf, hde.trans hef⟩

theorem Backs.grows (h : i.Backs id) (hg : i.Grows j) : j.Backs id := by
  obtain ⟨d, hd, rfl⟩ := h
  obtain ⟨e, he, hde⟩ := hg d hd
  exact ⟨e, he, congrArg VolumeInfo.id hde.volume_eq⟩

theorem exists_assignScsi {d : DiskInfo} {ds : List DiskInfo} (h : d ∈ ds) (n : Nat) :
    ∃ e ∈ Plane.assignScsi n ds, d.Becomes e := by
  induction ds generalizing n with
  | nil => cases h
  | cons c ds ih =>
    rw [Plane.assignScsi]
    obtain rfl | h := List.mem_cons.1 h
    · refine ⟨_, List.mem_cons_self, ?_⟩
      by_cases hs : d.scsi = ""
      · rw [if_pos hs]
        exact .inr ⟨hs, _, rfl⟩
      · rw [if_neg hs]
        exact .inl rfl
    · obtain ⟨e, he, hde⟩ := ih h (n + 1)
      exact ⟨e, List.mem_cons_of_mem _ he, hde⟩

theorem grows_kept (i : VmInfo) : i.Grows (Plane.kept i) := fun _ hd => exists_assignScsi hd 0

theorem Attaches.grows (h : i.Attaches id j) : i.Grows j := by
  obtain ⟨u, -, rfl⟩ := h
  exact fun d hd => ⟨d, List.mem_append_left _ hd, .inl rfl⟩

theorem Attaches.backs (h : i.Attaches id j) : j.Backs id := by
  obtain ⟨u, rfl, rfl⟩ := h
  exact ⟨.ofVolume u, List.mem_append_right _ (List.mem_singleton_self _), rfl⟩

end VmInfo

namespace Deed

def fetched? (e : Deed) : Option (String × VmInfo) := e.action.fetched? e.answer

def accepted? (e : Deed) : Option VmInfo := e.action.accepted? e.answer

def Fetches (e : Deed) (id : String) : Prop := ∃ host i, e.fetched? = some (host, i) ∧ i.id = id

def Puts (e : Deed) (id : String) : Prop := ∃ doc, e.accepted? = some doc ∧ doc.id = id

end Deed

def stageOf (log : List Deed) (i : Nat) : Stage :=
  (log.filter (·.who = i)).foldl (fun g e => g.after e.action e.answer) .seeking

theorem stageOf_append (log : List Deed) (e : Deed) (i : Nat) :
    stageOf (log ++ [e]) i =
      if e.who = i then (stageOf log i).after e.action e.answer else stageOf log i := by
  unfold stageOf
  rw [List.filter_append, List.foldl_append]
  by_cases h : e.who = i
  · rw [if_pos h, List.filter_cons_of_pos (by simpa using h)]
    rfl
  · rw [if_neg h, List.filter_cons_of_neg (by simpa using h)]
    rfl

/-- `i` put the document of the machine `id` after another one had fetched it that put its own
later. -/
def Overtaken (log : List Deed) (i : Nat) (id : String) : Prop :=
  ∃ e f g : Deed, [e, f, g].Sublist log ∧ f.who = i ∧ g.who ≠ i ∧ e.who = g.who ∧
    e.Fetches id ∧ f.Puts id ∧ g.Puts id

/-- `j` fetched the document of the machine `id` before `i` put it. -/
def Outdated (log : List Deed) (i j : Nat) (id : String) : Prop :=
  ∃ e f : Deed, [e, f].Sublist log ∧ e.who = j ∧ f.who = i ∧ e.Fetches id ∧ f.Puts id

section

variable {log : List Deed} {i j : Nat} {id : String} {e : Deed}

theorem Overtaken.append (h : Overtaken log i id) (e : Deed) : Overtaken (log ++ [e]) i id := by
  obtain ⟨a, b, c, hs, h⟩ := h
  exact ⟨a, b, c, hs.trans (List.sublist_append_left _ _), h⟩

theorem Outdated.append (h : Outdated log i j id) (e : Deed) : Outdated (log ++ [e]) i j id := by
  obtain ⟨a, b, hs, h⟩ := h
  exact ⟨a, b, hs.trans (List.sublist_append_left _ _), h⟩

theorem Outdated.overtaken (h : Outdated log i j id) (hj : e.who = j) (hij : j ≠ i)
    (he : e.Puts id) : Overtaken (log ++ [e]) i id := by
  obtain ⟨a, b, hs, ha, hb, hf, hp⟩ := h
  exact ⟨a, b, e, hs.append (List.Sublist.refl [e]), hb, hj ▸ hij, ha.trans hj.symm, hf, hp, he⟩

theorem outdated_last {a : Deed} (ha : a ∈ log) (hj : a.who = j) (hi : e.who = i)
    (hf : a.Fetches id) (he : e.Puts id) : Outdated (log ++ [e]) i j id :=
  ⟨a, e, (List.singleton_sublist.2 ha).append (List.Sublist.refl [e]), hj, hi, hf, he⟩

end

section

variable {log : List Deed} {i j k : Nat} {host h : String} {y z doc d : VmInfo} {a : Action}
  {x : a.Answer}

theorem changed_of_unaccepted (ha : a.accepted? x = none)
    (hs : stageOf (log ++ [⟨i, a, x⟩]) k = .changed host y doc) :
    stageOf log k = .changed host y doc := by
  rw [stageOf_append] at hs
  split at hs
  · cases hg : stageOf log k with
    | seeking =>
      rw [hg] at hs
      cases hf : a.fetched? x <;> simp [Stage.after, hf] at hs
    | holding h z => simp [hg, Stage.after, ha] at hs
    | changed h z d =>
      rw [hg] at hs
      exact hs
  · exact hs

theorem holding_of_unaccepted (ha : a.accepted? x = none)
    (hs : stageOf (log ++ [⟨i, a, x⟩]) j = .holding host y) :
    stageOf log j = .holding host y ∨ i = j ∧ a.fetched? x = some (host, y) := by
  rw [stageOf_append] at hs
  split at hs
  · rename_i hi
    cases hg : stageOf log j with
    | seeking =>
      rw [hg] at hs
      cases hf : a.fetched? x with
      | none => simp [Stage.after, hf] at hs
      | some p =>
        simp only [Stage.after, hf, Option.elim_some, Stage.holding.injEq] at hs
        exact .inr ⟨hi, congrArg some (Prod.ext hs.1 hs.2)⟩
    | holding h z =>
      rw [hg] at hs
      simp only [Stage.after, ha, Option.elim_none] at hs
      exact .inl hs
    | changed h z d =>
      rw [hg] at hs
      cases hs
  · exact .inl hs

theorem changed_of_accepted (hi : stageOf log i = .holding host y) (ha : a.accepted? x = some doc)
    (hs : stageOf (log ++ [⟨i, a, x⟩]) k = .changed h z d) :
    k = i ∧ h = host ∧ z = y ∧ d = doc ∨ k ≠ i ∧ stageOf log k = .changed h z d := by
  rw [stageOf_append] at hs
  split at hs
  · rename_i hk
    obtain rfl : i = k := hk
    simp only [hi, Stage.after, ha, Option.elim_some, Stage.changed.injEq] at hs
    exact .inl ⟨rfl, hs.1.symm, hs.2.1.symm, hs.2.2.symm⟩
  · rename_i hk
    exact .inr ⟨fun he => hk he.symm, hs⟩

theorem holding_of_accepted (hi : stageOf log i = .holding host y) (ha : a.accepted? x = some doc)
    (hs : stageOf (log ++ [⟨i, a, x⟩]) j = .holding h z) :
    j ≠ i ∧ stageOf log j = .holding h z := by
  rw [stageOf_append] at hs
  split at hs
  · rename_i hj
    obtain rfl : i = j := hj
    simp [hi, Stage.after, ha] at hs
  · rename_i hj
    exact ⟨fun he => hj he.symm, hs⟩

end

/-- What holds of calls that publish the volumes `ids` and began in `w`. -/
structure Attached (v : Volumes) (ids : List String) (w : World Fleet)
    (c : Crowd (World Fleet) (Except Error (Table String))) : Prop where
  proper : c.store.Proper
  lone : ∀ host id, host ≠ v.host → c.store.document host id = none
  members : ∀ (j : Nat) (p : Proc (Except Error (Table String))), c.members[j]? = some p →
    ∃ id, ids[j]? = some id ∧ p.Follows v.host (VmInfo.Attaches id)
      (fun g r => ∀ a, r = .ok a → ∃ host i doc, g = .changed host i doc) (stageOf c.log j)
  /-- Machines lose no disk. -/
  grown : ∀ id i, w.document v.host id = some i →
    ∃ i', c.store.document v.host id = some i' ∧ i.Grows i'
  fetched : ∀ j host i, stageOf c.log j = .holding host i →
    (∃ e ∈ c.log, e.who = j ∧ e.Fetches i.id) ∧
      ∀ i₀, w.document v.host i.id = some i₀ → i₀.Grows i
  put : ∀ k host i doc, stageOf c.log k = .changed host i doc →
    ∃ f ∈ c.log, f.who = k ∧ f.Puts doc.id
  /-- Who holds a document that lacks a volume fetched it too early. -/
  known : ∀ (j k : Nat) (host host' : String) (i i' doc : VmInfo) (id : String),
    stageOf c.log j = .holding host i → stageOf c.log k = .changed host' i' doc →
      doc.id = i.id → ids[k]? = some id →
        i.Backs id ∨ Outdated c.log k j i.id ∨ Overtaken c.log k i.id
  kept : ∀ (k : Nat) (host : String) (i doc : VmInfo) (id : String),
    stageOf c.log k = .changed host i doc → ids[k]? = some id →
      ∃ i', c.store.document v.host doc.id = some i' ∧
        (i'.Backs id ∨ Overtaken c.log k doc.id)

namespace Attached

variable {s : Setting} {v : Volumes} {ids : List String} {w : World Fleet}
  {c d : Crowd (World Fleet) (Except Error (Table String))} {i : Nat} {a : Action}
  {next : a.Answer → Proc (Except Error (Table String))}

def done (s : Setting) (c : Crowd (World Fleet) (Except Error (Table String))) (i : Nat)
    (a : Action) (next : a.Answer → Proc (Except Error (Table String))) :
    Crowd (World Fleet) (Except Error (Table String)) where
  store := (World.perform s a c.store).2
  members := c.members.set i (next (World.perform s a c.store).1)
  log := c.log ++ [⟨i, a, (World.perform s a c.store).1⟩]

theorem members_done (h : Attached v ids w c) (hm : c.members[i]? = some (.act a next)) (j : Nat)
    (p : Proc (Except Error (Table String))) (hj : (done s c i a next).members[j]? = some p) :
    ∃ id, ids[j]? = some id ∧ p.Follows v.host (VmInfo.Attaches id)
      (fun g r => ∀ a, r = .ok a → ∃ host i doc, g = .changed host i doc)
      (stageOf (done s c i a next).log j) := by
  have hs := stageOf_append c.log ⟨i, a, (World.perform s a c.store).1⟩ j
  obtain ⟨rfl, rfl⟩ | ⟨hne, hj⟩ := (getElem?_set_iff hm).1 hj
  · obtain ⟨id, hid, hf⟩ := h.members j _ hm
    rw [if_pos rfl] at hs
    refine ⟨id, hid, ?_⟩
    show Proc.Follows _ _ _ _ (stageOf (c.log ++ _) j)
    rw [hs]
    exact hf.2 _ ((World.Performs.act a).fits h.proper)
  · obtain ⟨id, hid, hf⟩ := h.members j p hj
    rw [if_neg fun he => hne he.symm] at hs
    refine ⟨id, hid, ?_⟩
    show Proc.Follows _ _ _ _ (stageOf (c.log ++ _) j)
    rw [hs]
    exact hf

theorem unaccepted (h : Attached v ids w c) (hm : c.members[i]? = some (.act a next))
    (ha : a.accepted? (World.perform s a c.store).1 = none) :
    Attached v ids w (done s c i a next) := by
  obtain ⟨hp, hd⟩ := (World.Performs.act a).unaccepted h.proper ha
  have document (host id : String) :
      (done s c i a next).store.document host id = c.store.document host id :=
    congrFun (congrFun hd host) id
  have fresh {host : String} {y : VmInfo}
      (hf : a.fetched? (World.perform s a c.store).1 = some (host, y)) :
      c.store.document v.host y.id = some y := by
    have hy := (World.Performs.act a).document_of_fetched h.proper hf
    have hv : host = v.host := Decidable.byContradiction fun hv => by
      rw [h.lone host y.id hv] at hy
      cases hy
    rwa [hv] at hy
  refine ⟨hp, fun host id hv => ?_, members_done h hm, fun id y hy => ?_, fun j host y hs => ?_,
    fun k host y doc hs => ?_, fun j k host host' y y' doc id hj hk hdoc hid => ?_,
    fun k host y doc id hs hid => ?_⟩
  · rw [document]
    exact h.lone host id hv
  · rw [document]
    exact h.grown id y hy
  · obtain hs | ⟨rfl, hf⟩ := holding_of_unaccepted ha hs
    · obtain ⟨⟨e, he, hj, hf⟩, hg⟩ := h.fetched j host y hs
      exact ⟨⟨e, List.mem_append_left _ he, hj, hf⟩, hg⟩
    · refine ⟨⟨_, List.mem_append_right _ (List.mem_singleton_self _), rfl, host, y, hf, rfl⟩, ?_⟩
      intro i₀ hi₀
      obtain ⟨y', hy', hg⟩ := h.grown y.id i₀ hi₀
      rw [fresh hf] at hy'
      exact Option.some.inj hy' ▸ hg
  · obtain ⟨f, hf, hk⟩ := h.put k host y doc (changed_of_unaccepted ha hs)
    exact ⟨f, List.mem_append_left _ hf, hk⟩
  · have hk := changed_of_unaccepted ha hk
    obtain hj | ⟨rfl, hf⟩ := holding_of_unaccepted ha hj
    · obtain hb | ho | ho := h.known j k host host' y y' doc id hj hk hdoc hid
      · exact .inl hb
      · exact .inr (.inl (ho.append _))
      · exact .inr (.inr (ho.append _))
    · obtain ⟨z, hz, hb⟩ := h.kept k host' y' doc id hk hid
      rw [hdoc, fresh hf] at hz
      obtain rfl := Option.some.inj hz
      rw [hdoc] at hb
      exact hb.imp_right fun ho => .inr (ho.append _)
  · obtain ⟨z, hz, hb⟩ := h.kept k host y doc id (changed_of_unaccepted ha hs) hid
    refine ⟨z, ?_, hb.imp_right fun ho => ho.append _⟩
    rw [document]
    exact hz

theorem accepted (h : Attached v ids w c) (hm : c.members[i]? = some (.act a next)) {doc : VmInfo}
    (ha : a.accepted? (World.perform s a c.store).1 = some doc) :
    Attached v ids w (done s c i a next) := by
  obtain ⟨idᵢ, hidᵢ, may, -⟩ := h.members i _ hm
  obtain ⟨hp, target, hput, hd, hother⟩ := (World.Performs.act a).accepted h.proper ha
  obtain ⟨rfl, host, y, hi, hedit⟩ := may target doc hput
  have hedit : y.Attaches idᵢ doc := hedit
  have hid : doc.id = y.id := hedit.id_eq
  have grows : y.Grows (Plane.kept doc) := hedit.grows.trans (VmInfo.grows_kept doc)
  have puts : Deed.Puts ⟨i, a, (World.perform s a c.store).1⟩ doc.id := ⟨doc, ha, rfl⟩
  have last : ⟨i, a, (World.perform s a c.store).1⟩ ∈ (done s c i a next).log :=
    List.mem_append_right _ (List.mem_singleton_self _)
  have other {id : String} (hne : id ≠ doc.id) :
      (done s c i a next).store.document v.host id = c.store.document v.host id :=
    hother v.host id fun he => hne he.2
  refine ⟨hp, fun k id hv => ?_, members_done h hm, fun id z hz => ?_, fun j k z hs => ?_,
    fun k k' z d hs => ?_, fun j k host₁ host₂ z z' d id hj hk hdz hids => ?_,
    fun k k' z d id hs hids => ?_⟩
  · exact (hother k id fun he => hv he.1).trans (h.lone k id hv)
  · by_cases hne : id = doc.id
    · subst hne
      exact ⟨_, hd, ((h.fetched i host y hi).2 z (hid ▸ hz)).trans grows⟩
    · rw [other hne]
      exact h.grown id z hz
  · obtain ⟨-, hs⟩ := holding_of_accepted hi ha hs
    obtain ⟨⟨e, he, hf⟩, hg⟩ := h.fetched j k z hs
    exact ⟨⟨e, List.mem_append_left _ he, hf⟩, hg⟩
  · obtain ⟨rfl, -, -, rfl⟩ | ⟨-, hs⟩ := changed_of_accepted hi ha hs
    · exact ⟨_, last, rfl, puts⟩
    · obtain ⟨f, hf, hk⟩ := h.put k k' z d hs
      exact ⟨f, List.mem_append_left _ hf, hk⟩
  · obtain ⟨-, hj'⟩ := holding_of_accepted hi ha hj
    obtain ⟨rfl, -, -, rfl⟩ | ⟨-, hk⟩ := changed_of_accepted hi ha hk
    · obtain ⟨e, he, hwho, hf⟩ := (h.fetched j host₁ z hj').1
      exact .inr (.inl (outdated_last he hwho rfl hf (hdz ▸ puts)))
    · obtain hb | ho | ho := h.known j k host₁ host₂ z z' d id hj' hk hdz hids
      · exact .inl hb
      · exact .inr (.inl (ho.append _))
      · exact .inr (.inr (ho.append _))
  · obtain ⟨rfl, -, -, rfl⟩ | ⟨hne, hs⟩ := changed_of_accepted hi ha hs
    · obtain rfl : idᵢ = id := Option.some.inj (hidᵢ.symm.trans hids)
      exact ⟨_, hd, .inl (hedit.backs.grows (VmInfo.grows_kept _))⟩
    · by_cases hdd : d.id = doc.id
      · refine ⟨_, hdd ▸ hd, ?_⟩
        rw [hdd, hid]
        obtain hb | ho | ho := h.known i k host k' y z d id hi hs (hdd.trans hid) hids
        · exact .inl (hb.grows grows)
        · exact .inr (ho.overtaken rfl hne.symm (hid ▸ puts))
        · exact .inr (ho.append _)
      · obtain ⟨z', hz', hb⟩ := h.kept k k' z d id hs hids
        exact ⟨z', (other hdd).trans hz', hb.imp_right fun ho => ho.append _⟩

theorem step (h : Attached v ids w c) (hd : c.step (World.serve s) i = some d) :
    Attached v ids w d := by
  obtain ⟨a, next, x, w', hm, hx, rfl⟩ := Crowd.step_eq_some hd
  obtain ⟨rfl, rfl⟩ := Prod.mk.inj (Option.some.inj hx)
  cases ha : a.accepted? (World.perform s a c.store).1 with
  | none => exact h.unaccepted hm ha
  | some doc => exact h.accepted hm ha

end Attached

def publishing (v : Volumes) (node : String) (ids : List String) (w : World Fleet) :
    Crowd (World Fleet) (Except Error (Table String)) where
  store := w
  members := ids.map fun id => (Csi.publish v id node).run

section

variable {s : Setting} {v : Volumes} {node : String} {ids : List String} {w : World Fleet}
  {c : Crowd (World Fleet) (Except Error (Table String))}

theorem attached_publishing (hw : w.Proper)
    (lone : ∀ host id, host ≠ v.host → w.document host id = none) (node : String)
    (ids : List String) : Attached v ids w (publishing v node ids w) := by
  refine ⟨hw, lone, fun j p hp => ?_, fun id i hi => ⟨i, hi, .refl i⟩, fun j host i hs => ?_,
    fun k host i doc hs => ?_, fun j k host host' i i' doc id hs => ?_,
    fun k host i doc id hs => ?_⟩
  · obtain ⟨id, hid, rfl⟩ := Option.map_eq_some_iff.1 (List.getElem?_map.symm.trans hp)
    exact ⟨id, hid, (Csi.changes_attaching v id).follows id node⟩
  · cases hs
  · cases hs
  · cases hs
  · cases hs

theorem exists_of_puts (hw : w.Proper)
    (lone : ∀ host id, host ≠ v.host → w.document host id = none) {is : List Nat}
    (h : (publishing v node ids w).follow (World.serve s) is = some c) {f : Deed} (hf : f ∈ c.log)
    {vm : String} (hp : f.Puts vm) : ∃ uuid, w.Names s node uuid ∧ w.Houses uuid v.host vm := by
  have seeks : ∀ p ∈ (publishing v node ids w).members,
      p.Relies s (World.Remembers s node w) (World.Allows s node w) fun r =>
        ∀ a, r = .ok a → True := by
    intro p hp
    obtain ⟨id, -, rfl⟩ := List.mem_map.1 hp
    exact Csi.seeks_publish id lone
  have allowed : World.Allows s node w f.action :=
    Crowd.relies_follow (.refl hw) seeks (fun e he => nomatch he) h f hf
  obtain ⟨doc, hd, rfl⟩ := hp
  obtain ⟨host, hput⟩ := Action.exists_of_accepted hd
  obtain ⟨uuid, k, hu, hh, i, hi⟩ := allowed host doc hput
  have hk : k = v.host := Decidable.byContradiction fun hk => by
    rw [lone k doc.id hk] at hi
    cases hi
  exact ⟨uuid, hu, hk ▸ hh⟩

/-- Of the volumes published to a node none is missing from its machine's document unless the call
was overtaken by another one, and no disk is lost that was there before. -/
theorem attachments_kept (hw : w.Proper)
    (lone : ∀ host id, host ≠ v.host → w.document host id = none) {is : List Nat}
    (h : (publishing v node ids w).follow (World.serve s) is = some c) :
    (∀ vm i, w.document v.host vm = some i →
      ∃ i', c.store.document v.host vm = some i' ∧
        ∀ d ∈ i.disks, ∃ e ∈ i'.disks, d.Becomes e) ∧
    ∀ j id context, ids[j]? = some id → c.members[j]? = some (.done (.ok context)) →
      ∃ uuid vm, w.Names s node uuid ∧ w.Houses uuid v.host vm ∧
        (∃ f ∈ c.log, f.who = j ∧ f.Puts vm) ∧
        ∃ i, c.store.document v.host vm = some i ∧ (i.Backs id ∨ Overtaken c.log j vm) := by
  have ha : Attached v ids w c :=
    Crowd.follow_induction (attached_publishing hw lone node ids) (fun _ _ _ hu hd => hu.step hd) h
  refine ⟨ha.grown, fun j id context hid hj => ?_⟩
  obtain ⟨id', -, hf⟩ := ha.members j _ hj
  obtain ⟨host, i, doc, hs⟩ := hf context rfl
  obtain ⟨f, hf, hj, hp⟩ := ha.put j host i doc hs
  obtain ⟨uuid, hu, hh⟩ := exists_of_puts hw lone h hf hp
  exact ⟨uuid, doc.id, hu, hh, ⟨f, hf, hj, hp⟩, ha.kept j host i doc id hs hid⟩

end

namespace Race

def machine : VmInfo where
  id := "vm-1"
  uuid := "u"
  datacenter := "dc"

def plane : Plane where
  host := "a"
  datacenters := [{ id := "dc" }]
  machines := [machine]
  volumes := [{ id := "vol-1" }, { id := "vol-2" }]
  nextId := 3

def world : World Fleet where
  net := Network.register { planes := .ofPlanes [plane] } plane.config
  nodes := { uuids := [("n", "u")], machines := [("u", .ofInfo ⟨"dc", "", "a"⟩ machine)] }

def calls : Crowd (World Fleet) (Except Error (Table String)) :=
  publishing { host := "a" } "n" ["vol-1", "vol-2"] world

def schedule : List Nat := .replicate 9 0 ++ .replicate 9 1 ++ .replicate 5 0 ++ .replicate 5 1

def succeeded : Proc (Except Error (Table String)) → Bool
  | .done (.ok _) => true
  | _ => false

theorem exists_of_succeeded {p : Proc (Except Error (Table String))} (h : succeeded p = true) :
    ∃ context, p = .done (.ok context) := by
  unfold succeeded at h
  split at h
  · exact ⟨_, rfl⟩
  · cases h

def isLost (c : Crowd (World Fleet) (Except Error (Table String))) : Bool :=
  c.members.map succeeded = [true, true] &&
    (c.store.document "a" "vm-1").any fun i => i.disks.all (·.volume.id ≠ "vol-1")

theorem exists_context {c : Crowd (World Fleet) (Except Error (Table String))}
    (h : isLost c = true) : ∃ context, c.members[0]? = some (.done (.ok context)) := by
  have hs : c.members.map succeeded = [true, true] :=
    of_decide_eq_true (Bool.and_eq_true_iff.1 h).1
  have h0 : (c.members.map succeeded)[0]? = some true := congrArg (·[0]?) hs
  obtain ⟨p, hp, hc⟩ := Option.map_eq_some_iff.1 (List.getElem?_map.symm.trans h0)
  obtain ⟨context, rfl⟩ := exists_of_succeeded hc
  exact ⟨context, hp⟩

theorem isLost_follow : (calls.follow (World.serve {}) schedule).any isLost = true := by
  decide +kernel

theorem proper_world : world.Proper := by
  refine (World.proper_of_planes (fun p hp => ?_) world.nodes).register plane.config
  obtain rfl := List.mem_singleton.1 hp
  refine ⟨List.pairwise_singleton _ _, fun m hm => ⟨1, by decide, ?_⟩⟩
  exact congrArg VmInfo.id (List.mem_singleton.1 hm)

theorem lone (host id : String) (h : host ≠ "a") : world.document host id = none := by
  have hp : Table.get? [("a", plane)] host = none := by simp [Table.get?_cons, h.symm]
  show (Option.map _ (Table.get? [("a", plane)] host)).bind _ = none
  rw [hp]
  rfl

end Race

/-- Every call succeeds, and still the volume of one of them is not attached. -/
theorem attachment_lost :
    ∃ c, Race.calls.follow (World.serve {}) Race.schedule = some c ∧
      (∀ p ∈ c.members, ∃ context, p = .done (.ok context)) ∧
      ∃ i, c.store.document "a" "vm-1" = some i ∧ ¬ i.Backs "vol-1" := by
  obtain ⟨c, hc, hl⟩ := (Option.any_eq_true _ _).1 Race.isLost_follow
  obtain ⟨hs, hd⟩ := Bool.and_eq_true_iff.1 hl
  obtain ⟨i, hi, hb⟩ := (Option.any_eq_true _ _).1 hd
  refine ⟨c, hc, fun p hp => Race.exists_of_succeeded ?_, i, hi, ?_⟩
  · have hm := List.mem_map_of_mem (f := Race.succeeded) hp
    rw [of_decide_eq_true hs] at hm
    simpa using hm
  · rintro ⟨d, hd, hv⟩
    exact of_decide_eq_true (List.all_eq_true.1 hb d hd) hv

/-- The volume that is lost is the one of the call that was overtaken. -/
theorem attachments_kept_race :
    ∃ c context, Race.calls.follow (World.serve {}) Race.schedule = some c ∧
      c.members[0]? = some (.done (.ok context)) ∧
      ∃ uuid vm, Race.world.Names {} "n" uuid ∧ Race.world.Houses uuid "a" vm ∧
        (∃ f ∈ c.log, f.who = 0 ∧ f.Puts vm) ∧
        ∃ i, c.store.document "a" vm = some i ∧ (i.Backs "vol-1" ∨ Overtaken c.log 0 vm) := by
  obtain ⟨c, hc, hl⟩ := (Option.any_eq_true _ _).1 Race.isLost_follow
  obtain ⟨context, h0⟩ := Race.exists_context hl
  exact ⟨c, context, hc, h0,
    (attachments_kept Race.proper_world Race.lone hc).2 0 "vol-1" context rfl h0⟩

end StorageDriver
