import StorageDriver.Http.Endpoint
import StorageDriver.Proofs.Conduct
import StorageDriver.Proofs.MachineEdits
import StorageDriver.Proofs.Records

namespace StorageDriver

open Json

namespace VolumeInfo

def record : Record VolumeInfo where
  blank := {}
  slots := [
    .plain "id" false .string (·.id) fun v s => { v with id := s },
    .plain "uuid" false .string (·.uuid) fun v s => { v with uuid := s },
    .plain "name" false .string (·.name) fun v s => { v with name := s },
    .plain "size" false .double (·.size) fun v d => { v with size := d },
    .plain "dataStoreId" false .string (·.dataStore) fun v s => { v with dataStore := s },
    .plain "diskType" false .string (·.diskType) fun v s => { v with diskType := s },
    .plain "volumeStatus" false .string (·.status) fun v s => { v with status := s }]
  extra := (·.extra)
  keep v k j := { v with extra := v.extra.put k j }

theorem codec_eq : codec = record.layout.codec := rfl

theorem lawful : record.Lawful where
  distinct := by decide
  get_set := by simp [record, Slot.plain]
  get_set_ne := by simp [record, Slot.plain]
  extra_set := by simp [record, Slot.plain]
  get_keep := by simp [record, Slot.plain]
  extra_keep _ _ _ := rfl
  extra_blank := rfl
  ext a b := by
    cases a
    cases b
    simp_all [record, Slot.plain]

def defaults : Table Json := [
  ("id", .string ""), ("uuid", .string ""), ("name", .string ""), ("size", .number (.float .zero)),
  ("dataStoreId", .string ""), ("diskType", .string ""), ("volumeStatus", .string "")]

/-- What becomes of a volume document that is read and written. -/
def Carried : Json → Json → Prop := Memberwise (Restores [("size", Kept SameDouble)] defaults)

theorem keeps : codec.Keeps Carried 1 := by
  rw [codec_eq]
  refine Record.keeps [("size", Kept SameDouble)] lawful ?_
    (by simp [record, Slot.plain])
  simp only [record, List.forall_mem_cons]
  refine ⟨.of_text rfl _, .of_text rfl _, .of_text rfl _, ?_, .of_text rfl _,
    .of_text rfl _, .of_text rfl _, nofun⟩
  exact .of_plain (i := .number (.float .zero)) Codec.keeps_double (Nat.le_refl _) rfl rfl

end VolumeInfo

namespace DiskInfo

def record : Record DiskInfo where
  blank := {}
  slots := [
    .plain "id" false .string (·.id) fun d s => { d with id := s },
    .plain "label" false .string (·.label) fun d s => { d with label := s },
    .plain "scsiId" false .string (·.scsi) fun d s => { d with scsi := s },
    .plain "enabled" false .bool (·.enabled) fun d b => { d with enabled := b },
    .plain "busModel" false .string (·.bus) fun d s => { d with bus := s },
    .plain "readWriteModel" false .string (·.mode) fun d s => { d with mode := s },
    .plain "enableNativeIO" false .bool (·.native) fun d b => { d with native := b },
    .plain "queueNum" false (.natural UInt32.size) (·.queues) fun d n => { d with queues := n },
    .plain "volume" false VolumeInfo.codec (·.volume) fun d v => { d with volume := v }]
  extra := (·.extra)
  keep d k j := { d with extra := d.extra.put k j }

theorem codec_eq : codec = record.layout.codec := rfl

theorem lawful : record.Lawful where
  distinct := by decide
  get_set := by simp [record, Slot.plain]
  get_set_ne := by simp [record, Slot.plain]
  extra_set := by simp [record, Slot.plain]
  get_keep := by simp [record, Slot.plain]
  extra_keep _ _ _ := rfl
  extra_blank := rfl
  ext a b := by
    cases a
    cases b
    simp_all [record, Slot.plain]

def defaults : Table Json := [
  ("id", .string ""), ("label", .string ""), ("scsiId", .string ""), ("enabled", .bool false),
  ("busModel", .string ""), ("readWriteModel", .string ""), ("enableNativeIO", .bool false),
  ("queueNum", .number (.int 0)), ("volume", .object VolumeInfo.defaults)]

def Carried : Json → Json → Prop :=
  Memberwise (Restores [("volume", Kept VolumeInfo.Carried)] defaults)

theorem keeps : codec.Keeps Carried 2 := by
  rw [codec_eq]
  refine Record.keeps [("volume", Kept VolumeInfo.Carried)] lawful ?_
    (by simp [record, Slot.plain])
  simp only [record, List.forall_mem_cons]
  refine ⟨.of_text rfl _, .of_text rfl _, .of_text rfl _, ?_, .of_text rfl _,
    .of_text rfl _, ?_, ?_, ?_, nofun⟩
  · exact .of_plain (i := .bool false) Codec.keeps_bool (Nat.zero_le _) trivial rfl
  · exact .of_plain (i := .bool false) Codec.keeps_bool (Nat.zero_le _) trivial rfl
  · exact .of_plain (i := .number (.int 0)) (Codec.keeps_natural _) (Nat.zero_le _)
      ⟨by decide, by decide⟩ rfl
  · exact .of_plain (i := .object []) VolumeInfo.keeps (Nat.le_refl _)
      ⟨List.nodup_nil, trivial⟩ rfl

end DiskInfo

namespace NicInfo

def record : Record NicInfo where
  blank := {}
  slots := [
    .plain "id" false .string (·.id) fun n s => { n with id := s },
    .plain "name" false .string (·.name) fun n s => { n with name := s },
    .plain "mac" false .string (·.mac) fun n s => { n with mac := s },
    .plain "ip" false .string (·.ip) fun n s => { n with ip := s },
    .plain "networkName" false .string (·.network) fun n s => { n with network := s }]
  extra := (·.extra)
  keep n k j := { n with extra := n.extra.put k j }

theorem codec_eq : codec = record.layout.codec := rfl

theorem lawful : record.Lawful where
  distinct := by decide
  get_set := by simp [record, Slot.plain]
  get_set_ne := by simp [record, Slot.plain]
  extra_set := by simp [record, Slot.plain]
  get_keep := by simp [record, Slot.plain]
  extra_keep _ _ _ := rfl
  extra_blank := rfl
  ext a b := by
    cases a
    cases b
    simp_all [record, Slot.plain]

def defaults : Table Json := [
  ("id", .string ""), ("name", .string ""), ("mac", .string ""), ("ip", .string ""),
  ("networkName", .string "")]

def Carried : Json → Json → Prop := Memberwise (Restores [] defaults)

theorem keeps : codec.Keeps Carried 1 := by
  rw [codec_eq]
  refine Record.keeps [] lawful ?_ nofun
  simp only [record, List.forall_mem_cons]
  exact ⟨.of_text rfl 0, .of_text rfl 0, .of_text rfl 0, .of_text rfl 0,
    .of_text rfl 0, nofun⟩

end NicInfo

namespace VmInfo

def record : Record VmInfo where
  blank := {}
  slots := [
    .plain "id" true .string (·.id) fun m s => { m with id := s },
    .plain "name" false .string (·.name) fun m s => { m with name := s },
    .plain "uuid" false .string (·.uuid) fun m s => { m with uuid := s },
    .plain "state" false .string (·.state) fun m s => { m with state := s },
    .plain "status" false .string (·.status) fun m s => { m with status := s },
    .plain "hostId" false .string (·.host) fun m s => { m with host := s },
    .plain "hostName" false .string (·.hostName) fun m s => { m with hostName := s },
    .plain "hostIp" false .string (·.hostIp) fun m s => { m with hostIp := s },
    .plain "dataCenterId" false .string (·.datacenter) fun m s => { m with datacenter := s },
    .plain "disks" false (.list DiskInfo.codec) (·.disks) fun m ds => { m with disks := ds },
    .plain "nics" false (.list NicInfo.codec) (·.nics) fun m ns => { m with nics := ns },
    .omitted "vncPasswd" .string (·.vncPassword) fun m s => { m with vncPassword := s }]
  extra := (·.extra)
  keep m k j := { m with extra := m.extra.put k j }

theorem codec_eq : codec = record.layout.codec := rfl

theorem lawful : record.Lawful where
  distinct := by decide
  get_set := by simp [record, Slot.plain, Slot.omitted]
  get_set_ne := by simp [record, Slot.plain, Slot.omitted]
  extra_set := by simp [record, Slot.plain, Slot.omitted]
  get_keep := by simp [record, Slot.plain, Slot.omitted]
  extra_keep _ _ _ := rfl
  extra_blank := rfl
  ext a b := by
    cases a
    cases b
    simp_all [record, Slot.plain, Slot.omitted]

def defaults : Table Json := [
  ("id", .string ""), ("name", .string ""), ("uuid", .string ""), ("state", .string ""),
  ("status", .string ""), ("hostId", .string ""), ("hostName", .string ""),
  ("hostIp", .string ""), ("dataCenterId", .string ""), ("disks", .array []), ("nics", .array [])]

def special : Table (Json → Option Json → Prop) := [
  ("disks", Kept (Itemwise DiskInfo.Carried)), ("nics", Kept (Itemwise NicInfo.Carried)),
  ("vncPasswd", Shown)]

def Carried : Json → Json → Prop := Memberwise (Restores special defaults)

theorem keeps : codec.Keeps Carried 4 := by
  rw [codec_eq]
  refine Record.keeps special lawful ?_
    (by simp [special, record, Slot.plain, Slot.omitted])
  simp only [record, List.forall_mem_cons]
  refine ⟨.of_text rfl _, .of_text rfl _, .of_text rfl _, .of_text rfl _,
    .of_text rfl _, .of_text rfl _, .of_text rfl _, .of_text rfl _, .of_text rfl _,
    ?_, ?_, .of_omitted rfl _, nofun⟩
  · exact .of_plain (i := .array []) (Codec.keeps_list DiskInfo.keeps) (Nat.le_refl 3)
      trivial rfl
  · exact .of_plain (i := .array []) (Codec.keeps_list NicInfo.keeps) (Nat.le_succ 2)
      trivial rfl

end VmInfo

/-- `new` has the members of `old`, those under `ks` aside. -/
def Json.SameBut (ks : List String) (old new : Table Json) : Prop :=
  ∀ k, k ∉ ks → new.get? k = old.get? k

def Command.Puts (c : Command) (path : String) (ms : Table Json) : Prop :=
  Http.Endpoint.ofCommand c =
    { method := .put, path := path, body := some (.object ms), reply := Http.started }

/-- The command puts the document of `i` with a password and the disks `ds`. -/
def Command.PutsDisks (c : Command) (i : VmInfo) (ds : List DiskInfo) : Prop :=
  ∃ old new : Table Json, VmInfo.codec.encode i = .object old ∧ c.Puts s!"vms/{i.id}" new ∧
    SameBut ["disks", "vncPasswd"] old new ∧
    old.get? "disks" = some (.array (i.disks.map DiskInfo.codec.encode)) ∧
    new.get? "disks" = some (.array (ds.map DiskInfo.codec.encode)) ∧
    new.get? "vncPasswd" = some (.string "00000000")

/-- The command puts the document of `v` with another size. -/
def Command.PutsSize (c : Command) (v : VolumeInfo) (size : Double) : Prop :=
  ∃ old new : Table Json, VolumeInfo.codec.encode v = .object old ∧
    c.Puts s!"volumes/{v.id}" new ∧ SameBut ["size"] old new ∧
    new.get? "size" = some (.number (.float size))

theorem VmInfo.get?_disks (i : VmInfo) :
    (record.members i).get? "disks" = some (.array (i.disks.map DiskInfo.codec.encode)) :=
  Record.get?_members lawful
    (s := .plain "disks" false (.list DiskInfo.codec) (·.disks) fun m ds => { m with disks := ds })
    (by simp [record]) rfl

theorem VmInfo.putsDisks (i : VmInfo) (ds : List DiskInfo) :
    (Command.putMachine { i with disks := ds, vncPassword := some consolePassword }).PutsDisks
      i ds := by
  let i' : VmInfo := { i with disks := ds, vncPassword := some consolePassword }
  have puts : (Command.putMachine i').Puts s!"vms/{i.id}" (record.members i') := by
    rw [Command.Puts, Http.Endpoint.ofCommand, codec_eq, record.encode_eq]
  refine ⟨record.members i, record.members i', record.encode_eq i, puts, fun k hk => ?_,
    i.get?_disks, get?_disks i', ?_⟩
  · refine Record.get?_members_congr lawful rfl fun s hs he => ?_
    have hn : s.name ≠ "disks" ∧ s.name ≠ "vncPasswd" := by
      simpa only [he, List.mem_cons, List.not_mem_nil, or_false, not_or] using hk
    revert s
    simp [i', record, Slot.plain, Slot.omitted]
  · exact Record.get?_members lawful
      (s := .omitted "vncPasswd" .string (·.vncPassword) fun m s => { m with vncPassword := s })
      (by simp [record]) rfl

theorem VolumeInfo.get?_size {v : VolumeInfo} (hf : v.size.isFinite = true) :
    (record.members v).get? "size" = some (.number (.float v.size)) :=
  Record.get?_members lawful
    (s := .plain "size" false .double (fun v : VolumeInfo => v.size)
      fun v d => { v with size := d })
    (by simp [record]) (congrArg some (if_pos hf))

theorem VolumeInfo.putsSize (v : VolumeInfo) {size : Double} (hf : size.isFinite = true) :
    (Command.putVolume { v with size := size }).PutsSize v size := by
  let v' : VolumeInfo := { v with size := size }
  have puts : (Command.putVolume v').Puts s!"volumes/{v.id}" (record.members v') := by
    rw [Command.Puts, Http.Endpoint.ofCommand, codec_eq, record.encode_eq]
  refine ⟨record.members v, record.members v', record.encode_eq v, puts, fun k hk => ?_,
    get?_size hf⟩
  refine Record.get?_members_congr lawful rfl fun s hs he => ?_
  have hn : s.name ≠ "size" := by
    simpa only [he, List.mem_cons, List.not_mem_nil, or_false] using hk
  revert s
  simp [v', record, Slot.plain]

/-- The volume `id` as it was fetched last, and the commands that `edit` allows for it. -/
def fetching (id : String) (edit : Option VolumeInfo → Command → Prop) :
    Conduct (Option VolumeInfo) where
  after
    | g, .ask _ (.volume i), .ok v => if i = id then some v else g
    | g, _, _ => g
  may g a := ∀ s c, a = .ask s (.command c) → edit g c

def Action.IsHarmless (a : Action) : Prop := ∀ s c, a ≠ .ask s (.command c)

namespace Attempt

variable {α : Type} {id : String} {edit : Option VolumeInfo → Command → Prop}
  {g : Option VolumeInfo}

theorem obeys_harmless {p : Attempt α} (h : p.run.All Action.IsHarmless) :
    p.Obeys (fetching id edit) (fun _ _ => True) g := by
  unfold Obeys
  generalize p.run = q at h
  induction q generalizing g with
  | done r => exact fun _ _ => trivial
  | act a next ih => exact ⟨fun s c he => absurd he (h.1 s c), fun x => ih x (h.2 x)⟩

theorem obeys_volume (s : Session) :
    (ask s (.volume id)).Obeys (fetching id edit) (fun g v => g = some v) g := by
  refine ⟨nofun, fun x v hv => ?_⟩
  subst hv
  exact if_pos rfl

theorem obeys_command (v : Volumes) (s : Session) {c : Command} (hc : edit g c) :
    (v.command s c).Obeys (fetching id edit) (fun _ _ => True) g := by
  refine obeys_bind (fun _ _ => True) ⟨fun s' c' he => ?_, fun x t ht => trivial⟩ fun _ t _ => ?_
  · cases he
    exact hc
  · exact obeys_harmless (v.poller.all_wait nofun fun _ => nofun)

end Attempt

namespace Volumes

open Attempt

theorem obeys_attach (v : Volumes) (m : VirtualMachine) (id : String) :
    (v.attach m id).Obeys (fetching id fun g c => ∃ volume, g = some volume ∧
        c.PutsDisks m.info (m.info.disks ++ [.ofVolume volume])) (fun _ _ => True) none := by
  refine obeys_bind _ (obeys_harmless (all_session nofun nofun true)) fun g s _ => ?_
  refine obeys_bind _ (obeys_volume s) fun g volume hg => ?_
  refine obeys_bind _ (obeys_command v s ⟨volume, hg, m.info.putsDisks _⟩) fun g _ _ => ?_
  exact obeys_harmless (m.all_renew nofun nofun (fun _ => nofun) false)

theorem obeys_detach (v : Volumes) (m : VirtualMachine) (id : String) :
    (v.detach m id).Obeys (fetching id fun _ c =>
        c.PutsDisks m.info (m.info.disks.filter (·.id ≠ id))) (fun _ _ => True) none := by
  refine obeys_bind _ (obeys_harmless (all_session nofun nofun true)) fun g s _ => ?_
  split
  · exact obeys_bind (fun _ _ => False) (obeys_throw _) fun _ _ h => h.elim
  · exact obeys_command v s (m.info.putsDisks _)

theorem obeys_expand (v : Volumes) (id : String) {capacity : Nat} (hc : capacity < UInt64.size) :
    (v.expand id capacity).Obeys (fetching id fun g c => ∃ volume, g = some volume ∧
        c.PutsSize volume (.ofNat capacity)) (fun _ _ => True) none := by
  refine obeys_bind _ (obeys_harmless (all_session nofun nofun true)) fun g s _ => ?_
  refine obeys_bind _ (obeys_volume s) fun g volume hg => ?_
  exact obeys_command v s
    ⟨volume, hg, volume.putsSize (decide_eq_true (Double.nearest_lt hc))⟩

end Volumes

/-- No attribute is lost on the way from the plane and back. -/
theorem documents_kept :
    (VmInfo.codec.Keeps VmInfo.Carried 4 ∧ DiskInfo.codec.Keeps DiskInfo.Carried 2 ∧
      NicInfo.codec.Keeps NicInfo.Carried 1 ∧ VolumeInfo.codec.Keeps VolumeInfo.Carried 1) ∧
    (∀ (v : Volumes) (m : VirtualMachine) (id : String),
      (v.attach m id).Obeys (fetching id fun g c => ∃ volume, g = some volume ∧
        c.PutsDisks m.info (m.info.disks ++ [.ofVolume volume])) (fun _ _ => True) none) ∧
    (∀ (v : Volumes) (m : VirtualMachine) (id : String),
      (v.detach m id).Obeys (fetching id fun _ c =>
        c.PutsDisks m.info (m.info.disks.filter (·.id ≠ id))) (fun _ _ => True) none) ∧
    ∀ (v : Volumes) (id : String) (capacity : Nat), capacity < UInt64.size →
      (v.expand id capacity).Obeys (fetching id fun g c => ∃ volume, g = some volume ∧
        c.PutsSize volume (.ofNat capacity)) (fun _ _ => True) none :=
  ⟨⟨VmInfo.keeps, DiskInfo.keeps, NicInfo.keeps, VolumeInfo.keeps⟩, Volumes.obeys_attach,
    Volumes.obeys_detach, fun v id _ => v.obeys_expand id⟩

def worker : Json := .object [
  ("id", .string "vm-1"), ("cpuNum", .number (.int 4)),
  ("disks", .array [.object [
    ("volume", .object [("size", .number (.int 10))]), ("l2CacheSize", .number (.int 0))]]),
  ("vncPasswd", .null)]

theorem documents_kept_worker :
    worker.Proper ∧ ∃ i, VmInfo.codec.decodeJson worker = .ok i ∧
      VmInfo.Carried worker (VmInfo.codec.encode i) ∧
      VmInfo.codec.decodeJson (VmInfo.codec.encode i) = .ok i ∧
      (Volumes.expand ⟨"10.0.0.1", {}⟩ "vol-1" 20).Obeys (fetching "vol-1" fun g c =>
        ∃ volume, g = some volume ∧ c.PutsSize volume (.ofNat 20)) (fun _ _ => True) none := by
  obtain ⟨⟨machine, -⟩, -, -, expand⟩ := documents_kept
  have hp : worker.Proper := by simp [worker, Proper, ProperMembers, ProperItems]
  obtain ⟨i, hi⟩ : ∃ i, VmInfo.codec.decodeJson worker = .ok i := ⟨_, rfl⟩
  exact ⟨hp, i, hi, machine.carries hp hi, machine.again hp hi (Nat.le_refl _) (by decide),
    expand _ _ 20 (by decide)⟩

end StorageDriver
