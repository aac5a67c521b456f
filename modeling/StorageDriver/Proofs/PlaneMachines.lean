import Mathlib.Data.List.Basic
import StorageDriver.Proofs.Standing

namespace StorageDriver

def Request.puts? : Request → Option VmInfo
  | .command (.putMachine doc) => some doc
  | _ => none

namespace Plane

variable {p : Plane}

def kept (doc : VmInfo) : VmInfo := { doc with disks := assignScsi 0 doc.disks }

theorem length_assignScsi (n : Nat) (ds : List DiskInfo) :
    (assignScsi n ds).length = ds.length := by
  induction ds generalizing n with
  | nil => rfl
  | cons d ds ih => rw [assignScsi, List.length_cons, List.length_cons, ih]

theorem map_modifyFirst {α : Type} {hit : α → Bool} {f : α → α} {key : α → String}
    (hf : ∀ a, hit a = true → key (f a) = key a) (as : List α) :
    (modifyFirst hit f as).map key = as.map key := by
  induction as with
  | nil => rfl
  | cons a as ih =>
    rw [modifyFirst]
    split
    · rename_i h
      rw [List.map_cons, List.map_cons, hf a h]
    · rw [List.map_cons, List.map_cons, ih]

def stored (doc : VmInfo) : List VmInfo → List VmInfo :=
  modifyFirst (·.id = doc.id) fun _ => kept doc

section

variable {doc : VmInfo} {ms : List VmInfo}

theorem stored_cons (doc m : VmInfo) (ms : List VmInfo) :
    stored doc (m :: ms) = if m.id = doc.id then kept doc :: ms else m :: stored doc ms := by
  simp [stored, modifyFirst]

theorem stored_of_not_any (h : ¬ ms.any (·.id = doc.id) = true) : stored doc ms = ms := by
  induction ms with
  | nil => rfl
  | cons m ms ih =>
    rw [List.any_cons, Bool.or_eq_true, not_or] at h
    rw [stored_cons, if_neg (by simpa using h.1), ih h.2]

theorem ids_stored (doc : VmInfo) (ms : List VmInfo) :
    (stored doc ms).map (·.id) = ms.map (·.id) :=
  map_modifyFirst (fun _ h => (of_decide_eq_true h).symm) ms

theorem find_stored_of_ne {id : String} (h : id ≠ doc.id) :
    (stored doc ms).find? (·.id = id) = ms.find? (·.id = id) := by
  induction ms with
  | nil => rfl
  | cons m ms ih =>
    rw [stored_cons]
    split
    · rename_i hm
      rw [List.find?_cons_of_neg (by simp [kept, h.symm]),
        List.find?_cons_of_neg (by simpa [hm] using h.symm)]
    · rw [List.find?_cons, List.find?_cons, ih]

theorem find_stored (h : ms.any (·.id = doc.id) = true) :
    (stored doc ms).find? (·.id = doc.id) = some (kept doc) := by
  induction ms with
  | nil => cases h
  | cons m ms ih =>
    rw [stored_cons]
    split
    · exact List.find?_cons_of_pos (by simp [kept])
    · rename_i hm
      rw [List.any_cons, Bool.or_eq_true] at h
      rw [List.find?_cons_of_neg (by simpa using hm), ih (h.resolve_left (by simpa using hm))]

end

theorem machines_start (p : Plane) (q : Request) : (p.start q).2.machines = p.machines := by
  cases q <;> rfl

theorem machines_finish {q : Request} (h : q.puts? = none) :
    (p.finish q).2.machines = p.machines := by
  cases q with
  | task id =>
    show (p.readTask id).2.machines = p.machines
    unfold readTask
    dsimp only
    split <;> rfl
  | command c =>
    cases c with
    | putMachine doc => cases h
    | createVolume order =>
      simp only [finish, obey]
      split <;> rfl
    | deleteVolume id wipe =>
      simp only [finish, obey]
      split <;> rfl
    | putVolume doc =>
      simp only [finish, obey]
      split <;> rfl
  | _ => rfl

theorem machines_put (doc : VmInfo) :
    (p.finish (.command (.putMachine doc))).2.machines = stored doc p.machines := by
  simp only [finish, obey]
  split
  · rfl
  · rename_i h
    exact (stored_of_not_any h).symm

theorem any_of_put {doc : VmInfo} {t : Task}
    (h : (p.finish (.command (.putMachine doc))).1 = .ok t) :
    p.machines.any (·.id = doc.id) = true := by
  simp only [finish, obey] at h
  split at h
  · assumption
  · cases h

theorem not_any_of_put {doc : VmInfo} {e : Error}
    (h : (p.finish (.command (.putMachine doc))).1 = .error e) :
    ¬ p.machines.any (·.id = doc.id) = true := by
  simp only [finish, obey] at h
  split at h
  · cases h
  · assumption

theorem answered_machine {id : String} {i : VmInfo} (h : (p.finish (.machine id)).1 = .ok i) :
    p.vm? id = some i := by
  simp only [finish] at h
  split at h
  · cases h
  · cases hv : p.vm? id with
    | none =>
      rw [hv] at h
      cases h
    | some j =>
      rw [hv] at h
      exact congrArg some (Except.ok.inj h)

theorem answered_volume {id : String} {v : VolumeInfo} (h : (p.finish (.volume id)).1 = .ok v) :
    v.id = id := by
  simp only [finish] at h
  cases hv : p.volume? id with
  | none =>
    rw [hv] at h
    cases h
  | some u =>
    rw [hv] at h
    obtain rfl : u = v := Except.ok.inj h
    simpa using List.find?_some hv

theorem not_mem_toDigits (n : Nat) : '-' ∉ Nat.toDigits 10 n := by
  intro h
  have hd := Nat.isDigit_of_mem_toDigits (by decide) (Nat.le_refl 10) h
  exact absurd hd (by decide)

theorem id_inj {a b : String} {j k : Nat} (ha : '-' ∉ a.toList) (h : s!"{a}-{j}" = s!"{b}-{k}") :
    a = b ∧ j = k := by
  have hl : a.toList ++ '-' :: Nat.toDigits 10 j = b.toList ++ '-' :: Nat.toDigits 10 k := by
    simpa [toString] using congrArg String.toList h
  obtain ⟨hab, -, hd⟩ := (List.append_cons_inj_of_notMem ha (not_mem_toDigits j)).1 hl
  refine ⟨String.toList_inj.1 hab, ?_⟩
  rw [← Nat.ofDigitChars_ten_toDigits (n := j), hd, Nat.ofDigitChars_ten_toDigits]

/-- The machines have ids that the plane gave out, and no two the same. -/
structure Numbers (p : Plane) : Prop where
  nodup : (p.machines.map (·.id)).Nodup
  given : ∀ m ∈ p.machines, ∃ k < p.nextId, m.id = s!"vm-{k}"

theorem numbers_of_nil (h : p.machines = []) : p.Numbers where
  nodup := h ▸ .nil
  given _ hm := absurd (h ▸ hm) List.not_mem_nil

theorem exists_addVm (p : Plane) (datacenter name uuid : String) :
    ∃ m : VmInfo, m.id = s!"vm-{p.nextId}" ∧
      (p.addVm datacenter name uuid).2.machines = p.machines ++ [m] :=
  ⟨_, rfl, rfl⟩

theorem Numbers.addVm (h : p.Numbers) (datacenter name uuid : String) :
    (p.addVm datacenter name uuid).2.Numbers := by
  obtain ⟨m, hid, hm⟩ := p.exists_addVm datacenter name uuid
  refine ⟨?_, fun m' hm' => ?_⟩
  · rw [hm, List.map_append, List.nodup_append]
    refine ⟨h.nodup, List.pairwise_singleton _ _, fun i hi j hj he => ?_⟩
    obtain ⟨m', hm', rfl⟩ := List.mem_map.1 hi
    obtain rfl := List.mem_singleton.1 hj
    obtain ⟨k, hk, hk'⟩ := h.given m' hm'
    have hn := (id_inj (a := "vm") (b := "vm") (by decide) (hk'.symm.trans (he.trans hid))).2
    omega
  · rw [hm] at hm'
    obtain hm' | hm' := List.mem_append.1 hm'
    · obtain ⟨k, hk, he⟩ := h.given m' hm'
      exact ⟨k, Nat.lt_succ_of_lt hk, he⟩
    · obtain rfl := List.mem_singleton.1 hm'
      exact ⟨p.nextId, Nat.lt_succ_self _, hid⟩

end Plane

namespace Fleet

def machines? (f : Fleet) (host : String) : Option (List VmInfo) := (f.get? host).map (·.machines)

theorem machines?_put (f : Fleet) (host : String) (p : Plane) (k : String) :
    machines? (f.put host p) k = if host = k then some p.machines else f.machines? k := by
  rw [machines?, Table.get?_put]
  split <;> rfl

theorem machines?_put_of_eq {f : Fleet} {host : String} {p q : Plane}
    (hp : f.get? host = some p) (hq : q.machines = p.machines) :
    machines? (f.put host q) = f.machines? := by
  funext k
  rw [machines?_put]
  by_cases hk : host = k
  · subst hk
    rw [if_pos rfl, machines?, hp, hq, Option.map_some]
  · rw [if_neg hk]

def document (f : Fleet) (host id : String) : Option VmInfo :=
  (f.machines? host).bind (·.find? (·.id = id))

/-- No plane has two machines of one id. -/
def Numbered (f : Fleet) : Prop :=
  ∀ host ms, f.machines? host = some ms → (ms.map (·.id)).Nodup

theorem Numbered.of_eq {f g : Fleet} (hf : f.Numbered) (h : g.machines? = f.machines?) :
    g.Numbered := by
  intro host ms hm
  exact hf host ms (h ▸ hm)

theorem document_of_mem {f : Fleet} (hf : f.Numbered) {host : String} {ms : List VmInfo}
    (hm : f.machines? host = some ms) {i : VmInfo} (hi : i ∈ ms) :
    f.document host i.id = some i := by
  have hn := hf host ms hm
  rw [document, hm, Option.bind_some]
  clear hm
  induction ms with
  | nil => cases hi
  | cons m ms ih =>
    rw [List.map_cons, List.nodup_cons] at hn
    obtain rfl | hi := List.mem_cons.1 hi
    · exact List.find?_cons_of_pos (by simp)
    · have hne : m.id ≠ i.id := fun he => hn.1 (he ▸ List.mem_map_of_mem hi)
      rw [List.find?_cons_of_neg (by simpa using hne)]
      exact ih hi hn.2

theorem Numbered.put {f : Fleet} (hf : f.Numbered) (host : String) {p : Plane}
    (hp : (p.machines.map (·.id)).Nodup) : Numbered (f.put host p) := by
  intro k ms hm
  rw [machines?_put] at hm
  split at hm
  · exact Option.some.inj hm ▸ hp
  · exact hf k ms hm

theorem numbered_ofPlanes {planes : List Plane} (h : ∀ p ∈ planes, p.Numbers) :
    (ofPlanes planes).Numbered := by
  suffices ∀ f : Fleet, f.Numbered →
      Numbered (planes.foldl (fun fleet p => fleet.put p.host p) f) from this [] nofun
  induction planes with
  | nil => exact fun f hf => hf
  | cons p planes ih =>
    intro f hf
    have hp := hf.put p.host (h p List.mem_cons_self).nodup
    exact ih (fun q hq => h q (List.mem_cons_of_mem _ hq)) _ hp

theorem Alike.machines? {f g : Fleet} (h : f.Alike g) : f.machines? = g.machines? := by
  funext host
  have hs := congrArg (Option.map Plane.machines) (h host)
  rw [Option.map_map, Option.map_map] at hs
  exact hs

end Fleet

end StorageDriver
