import StorageDriver.Center
import StorageDriver.Number.Decimal
import StorageDriver.Request

namespace StorageDriver

namespace Plane

structure Calls where
  connects : Nat := 0
  datacenterLists : Nat := 0
  vmLists : Nat := 0
  getVm : Nat := 0
  setVm : Nat := 0
  commands : Nat := 0
  taskPolls : Nat := 0
deriving DecidableEq, Repr, Inhabited

/-- What fails at present. `vmList` names datacenters. -/
structure Failures where
  connect : Bool := false
  datacenterList : Bool := false
  vmList : List String := []
  getVm : Bool := false
deriving DecidableEq, Repr, Inhabited

end Plane

structure Plane where
  host : String
  datacenters : List DatacenterInfo := []
  machines : List VmInfo := []
  volumes : List VolumeInfo := []
  failures : Plane.Failures := {}
  /-- The states each task still has to show. The last one stays. -/
  tasks : Table (List String) := []
  /-- The states of the task that the next command starts. -/
  script : Option (List String) := none
  listDelay : Option Nat := none
  /-- The datacenters whose machines were asked for, in order. -/
  listed : List String := []
  calls : Plane.Calls := {}
  nextId : Nat := 1
deriving DecidableEq, Repr, Inhabited

namespace Plane

def config (p : Plane) : Center.Config :=
  { host := p.host, port := 443, user := "admin", password := "admin" }

def freshId (p : Plane) (kind : String) : String × Plane :=
  (s!"{kind}-{p.nextId}", { p with nextId := p.nextId + 1 })

def addDatacenter (p : Plane) (id name : String) : Plane :=
  { p with datacenters := p.datacenters ++ [{ id := id, name := name }] }

def addVm (p : Plane) (datacenter name uuid : String) : String × Plane :=
  let (id, p) := p.freshId "vm"
  let doc : VmInfo :=
    { id := id, name := name, uuid := uuid, state := "STARTED", datacenter := datacenter,
      hostName := s!"{p.host}-host" }
  (id, { p with machines := p.machines ++ [doc] })

def addVolume (p : Plane) (dataStore name : String) (size : Double) : String × Plane :=
  let (id, p) := p.freshId "vol"
  let doc : VolumeInfo :=
    { id := id, uuid := id, name := name, size := size, dataStore := dataStore,
      status := "AVAILABLE" }
  (id, { p with volumes := p.volumes ++ [doc] })

def vm? (p : Plane) (id : String) : Option VmInfo := p.machines.find? (·.id = id)

def volume? (p : Plane) (id : String) : Option VolumeInfo := p.volumes.find? (·.id = id)

def modifyFirst {α : Type} (hit : α → Bool) (f : α → α) : List α → List α
  | [] => []
  | a :: as => if hit a then f a :: as else a :: modifyFirst hit f as

def setVmState (p : Plane) (id state : String) : Plane :=
  { p with machines := modifyFirst (·.id = id) (fun m => { m with state := state }) p.machines }

def scriptTask (p : Plane) (id : String) (states : List String) : Plane :=
  { p with tasks := p.tasks.put id states }

def scriptNextCommand (p : Plane) (states : List String) : Plane := { p with script := some states }

def startTask (p : Plane) : Task × Plane :=
  let (id, p) := p.freshId "task"
  let states := p.script.getD ["FINISHED"]
  (⟨id⟩, { p with
    tasks := p.tasks.put id states, script := none,
    calls := { p.calls with commands := p.calls.commands + 1 } })

def notFound (what id : String) : Error := .rest 404 s!"{what} {id} not found"

/-- The plane gives SCSI ids to the disks that have none. -/
def assignScsi (i : Nat) : List DiskInfo → List DiskInfo
  | [] => []
  | d :: ds =>
    (if d.scsi = "" then { d with scsi := s!"scsi0-0-{i}-{d.volume.id}" } else d) ::
      assignScsi (i + 1) ds

def connect (p : Plane) (host : String) : Except Error Unit × Plane :=
  (if p.failures.connect then .error (.connection host "connection refused") else .ok (),
    { p with calls := { p.calls with connects := p.calls.connects + 1 } })

/-- The part of a request that is done before its delay, with the delay. -/
def start (p : Plane) : Request → Nat × Plane
  | .machines id =>
    (p.listDelay.getD 0, { p with
      calls := { p.calls with vmLists := p.calls.vmLists + 1 },
      listed := p.listed ++ [id] })
  | _ => (0, p)

def readTask (p : Plane) (id : String) : Except Error TaskInfo × Plane :=
  let p := { p with calls := { p.calls with taskPolls := p.calls.taskPolls + 1 } }
  match p.tasks.get? id with
  | none => (.error (notFound "task" id), p)
  | some states =>
    let state := states.headD ""
    let rest := match states with
      | _ :: s :: ss => s :: ss
      | ss => ss
    let detail := if state = "ERROR" then s!"task {id} failed" else ""
    (.ok { id := id, state := state, detail := detail }, { p with tasks := p.tasks.put id rest })

def accept (p : Plane) : Except Error Task × Plane :=
  let (t, p) := p.startTask
  (.ok t, p)

/-- Make the change at once and start a task for it. -/
def obey (p : Plane) : Command → Except Error Task × Plane
  | .putMachine doc =>
    let p := { p with calls := { p.calls with setVm := p.calls.setVm + 1 } }
    if p.machines.any (·.id = doc.id) then
      let doc := { doc with disks := assignScsi 0 doc.disks }
      accept { p with machines := modifyFirst (·.id = doc.id) (fun _ => doc) p.machines }
    else (.error (notFound "vm" doc.id), p)
  | .createVolume order =>
    match Double.ofText order.size.toList with
    | .ok size => accept (p.addVolume order.dataStore order.name size).2
    | .error e =>
      (.error (.rest 400 ("invalid size " ++ Text.quote order.size ++ ": " ++ e.message)), p)
  | .deleteVolume id _ =>
    if p.volumes.any (·.id = id) then accept { p with volumes := p.volumes.filter (·.id ≠ id) }
    else (.error (notFound "volume" id), p)
  | .putVolume doc =>
    if p.volumes.any (·.id = doc.id) then
      accept { p with volumes := modifyFirst (·.id = doc.id) (fun _ => doc) p.volumes }
    else (.error (notFound "volume" doc.id), p)

/-- The part of a request that is done after its delay. -/
def finish (p : Plane) : (q : Request) → Except Error q.Reply × Plane
  | .datacenters =>
    let p := { p with calls := { p.calls with datacenterLists := p.calls.datacenterLists + 1 } }
    (if p.failures.datacenterList then .error (.rest 500 "datacenter listing failed")
      else .ok p.datacenters, p)
  | .datacenter id =>
    ((p.datacenters.find? (·.id = id)).elim (.error (notFound "datacenter" id)) .ok, p)
  | .machines id =>
    (if p.failures.vmList.contains id then .error (.rest 500 s!"listing VMs of {id} failed")
      else if p.datacenters.any (·.id = id) then .ok (p.machines.filter (·.datacenter = id))
      else .error (notFound "datacenter" id), p)
  | .machine id =>
    (if p.failures.getVm then .error (.rest 500 s!"fetching VM {id} failed")
      else (p.vm? id).elim (.error (notFound "vm" id)) .ok,
      { p with calls := { p.calls with getVm := p.calls.getVm + 1 } })
  | .volume id => ((p.volume? id).elim (.error (notFound "volume" id)) .ok, p)
  | .volumes dataStore => (.ok (p.volumes.filter (·.dataStore = dataStore)), p)
  | .task id => p.readTask id
  | .command c => p.obey c

end Plane

end StorageDriver
