import StorageDriver.Poller
import StorageDriver.Renewal

namespace StorageDriver

structure VolumeSpec where
  name : String
  capacity : Nat
  dataStore : String
deriving DecidableEq, Repr

namespace VolumeSpec

open Json

def layout : Layout VolumeSpec where
  blank := ⟨"", 0, ""⟩
  fields := [
    .required "name" .string (·.name) fun v s => { v with name := s },
    .required "capacity_gb" (.natural UInt64.size) (·.capacity) fun v n => { v with capacity := n },
    .required "datastore_id" .string (·.dataStore) fun v s => { v with dataStore := s }]

def codec : Codec VolumeSpec := layout.codec

def order (v : VolumeSpec) : VolumeOrder where
  name := v.name
  size := toString v.capacity
  dataStoreType := "LOCAL"
  dataStore := v.dataStore
  policy := "THIN"
  description := "CSI Persistent Volume"
  bootable := false
  shared := false

end VolumeSpec

/-- How many units hold `bytes`. -/
def roundUp (bytes unit : Nat) : Nat := (bytes + unit - 1) / unit

/-- No smaller number of units is enough. -/
theorem roundUp_le_iff {bytes unit n : Nat} (h : 0 < unit) :
    roundUp bytes unit ≤ n ↔ bytes ≤ n * unit := by
  unfold roundUp
  rw [← Nat.lt_succ_iff, Nat.div_lt_iff_lt_mul h, Nat.succ_mul]
  omega

def gib : Nat := 1024 * 1024 * 1024

def DiskInfo.ofVolume (v : VolumeInfo) : DiskInfo where
  id := v.id
  bus := "SCSI"
  mode := "NONE"
  queues := 1
  volume := { v with diskType := "SAS" }

namespace VmInfo

/-- The plane wants a console password with every change of a machine. -/
def consolePassword : String := "00000000"

def withDisk (m : VmInfo) (v : VolumeInfo) : VmInfo :=
  { m with disks := m.disks ++ [.ofVolume v], vncPassword := some consolePassword }

def withoutDisk (m : VmInfo) (id : String) : VmInfo :=
  { m with disks := m.disks.filter (·.id ≠ id), vncPassword := some consolePassword }

end VmInfo

structure Volumes where
  host : String
  poller : Poller := {}
deriving DecidableEq, Repr

namespace Volumes

def session (v : Volumes) : Attempt Session := Attempt.session v.host true

def command (v : Volumes) (s : Session) (c : Command) : Attempt Unit := do
  v.poller.wait s (← Attempt.ask s (.command c))

def create (v : Volumes) (spec : VolumeSpec) : Attempt String := do
  if spec.name = "" then throw (.invalidArgument "volume name is empty")
  if spec.dataStore = "" then throw (.invalidArgument "datastore is not specified")
  let s ← v.session
  v.command s (.createVolume spec.order)
  match (← Attempt.ask s (.volumes spec.dataStore)).find? (·.name = spec.name) with
  | some made => return made.id
  | none =>
    throw (.internal
      s!"volume {spec.name} not found in datastore {spec.dataStore} after creation")

def delete (v : Volumes) (id : String) (wipe : Bool) : Attempt Unit := do
  let s ← v.session
  v.command s (.deleteVolume id wipe)

def expand (v : Volumes) (id : String) (capacity : Nat) : Attempt Unit := do
  let s ← v.session
  let volume ← Attempt.ask s (.volume id)
  v.command s (.putVolume { volume with size := .ofNat capacity })

def attach (v : Volumes) (m : VirtualMachine) (id : String) : Attempt VirtualMachine := do
  let s ← v.session
  let volume ← Attempt.ask s (.volume id)
  v.command s (.putMachine (m.info.withDisk volume))
  m.renew false

def scsiId (m : VirtualMachine) (id : String) : Except Error String :=
  match m.diskOf id with
  | some d => .ok d.scsi
  | none => .error (.internal s!"volume {id} is not attached after the task finished")

def detach (v : Volumes) (m : VirtualMachine) (id : String) : Attempt Unit := do
  let s ← v.session
  if m.info.disks.all (·.id ≠ id) then
    throw (.invalidArgument (s!"volume {id} is not attached to " ++ m.describe))
  v.command s (.putMachine (m.info.withoutDisk id))

end Volumes

end StorageDriver
