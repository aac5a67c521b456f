import StorageDriver.Error
import StorageDriver.Place
import StorageDriver.Task

namespace StorageDriver

structure Session where
  host : String
  slot : Nat
deriving DecidableEq, Repr, Inhabited

/-- What changes the plane. It starts a task. -/
inductive Command
  | putMachine (doc : VmInfo)
  | createVolume (order : VolumeOrder)
  | deleteVolume (id : String) (wipe : Bool)
  | putVolume (doc : VolumeInfo)
deriving DecidableEq, Repr

inductive Request
  | datacenters
  | datacenter (id : String)
  | machines (datacenter : String)
  | machine (id : String)
  | volume (id : String)
  | volumes (dataStore : String)
  | task (id : String)
  | command (c : Command)
deriving DecidableEq, Repr

abbrev Request.Reply : Request → Type
  | datacenters => List DatacenterInfo
  | datacenter _ => DatacenterInfo
  | machines _ => List VmInfo
  | machine _ => VmInfo
  | volume _ => VolumeInfo
  | volumes _ => List VolumeInfo
  | task _ => TaskInfo
  | command _ => Task

end StorageDriver
