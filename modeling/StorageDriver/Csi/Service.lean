import StorageDriver.Csi
import StorageDriver.Node
import StorageDriver.Volumes

namespace StorageDriver.Csi

def info : PluginInfo where
  name := "csi.ics.inspur.com"
  version := "0.1.0"

def capabilities : List PluginCapability := [.controllerService, .onlineExpansion]

/-- The plugin is ready when the center of its volumes is registered. -/
def ready (v : Volumes) : Attempt Bool := do
  match ← (Attempt.center v.host).outcome with
  | .ok _ => return true
  | .error _ => return false

def need (what : String) (s : String) : Attempt Unit :=
  if s = "" then throw (.invalidArgument (what ++ " is empty")) else pure ()

/-- The capacity asked for in whole GiB, ten of them if none is asked for. -/
def CreateRequest.gibs (r : CreateRequest) : Nat :=
  roundUp (if r.capacity = 0 then 10 * gib else r.capacity) gib

def create (v : Volumes) (r : CreateRequest) : Attempt Volume := do
  need "volume name" r.name
  match r.parameter "datastoreurl" with
  | none | some "" =>
    throw (.invalidArgument "storage class parameter datastoreurl is not set")
  | some dataStore =>
    let id ← v.create { name := r.name, capacity := r.gibs, dataStore := dataStore }
    return {
      id := id
      capacity := r.gibs * gib
      context := [("type", "ics-disk"), ("fstype", (r.parameter "fstype").getD "")] }

def delete (v : Volumes) (id : String) : Attempt Unit := do
  need "volume id" id
  v.delete id true

/-- Attach a volume to the machine of a node. Answers what the node has to know. -/
def publish (v : Volumes) (id node : String) : Attempt (Table String) := do
  need "volume id" id
  need "node id" node
  let m ← v.attach (← Node.machineOf node) id
  let scsi ← .ofOutcome (Volumes.scsiId m id)
  return [("type", "ics-disk"), ("diskUUID", scsi)]

def unpublish (v : Volumes) (id node : String) : Attempt Unit := do
  need "volume id" id
  need "node id" node
  v.detach (← Node.machineOf node) id

/-- A raw device has no file system that the node would have to grow. -/
def expand (v : Volumes) (id : String) (bytes : Nat) (capability : Option Capability) :
    Attempt Expansion := do
  need "volume id" id
  let gibs := roundUp bytes gib
  v.expand id gibs
  return { capacity := gibs * gib, nodeMustGrow := !(capability.any (·.type = .block)) }

end StorageDriver.Csi
