import StorageDriver.Document.Machine
import StorageDriver.Document.Reply

namespace StorageDriver

open Json

structure Datacenter where
  id : String
  name : String
  host : String
deriving DecidableEq, Repr, Inhabited

/-- A machine found in a datacenter. `info` is its document when it was last fetched. -/
structure VirtualMachine where
  uuid : String
  name : String
  host : String
  datacenter : Datacenter
  info : VmInfo
deriving DecidableEq, Repr, Inhabited

namespace Datacenter

def layout : Layout Datacenter where
  blank := ⟨"", "", ""⟩
  fields := [
    .required "id" .string (·.id) fun d s => { d with id := s },
    .required "name" .string (·.name) fun d s => { d with name := s },
    .required "virtual_center_host" .string (·.host) fun d s => { d with host := s }]

def codec : Codec Datacenter := layout.codec

def describe (d : Datacenter) : String := s!"{d.name} ({d.id}) @ {d.host}"

def ofInfo (host : String) (i : DatacenterInfo) : Datacenter := ⟨i.id, i.name, host⟩

end Datacenter

namespace VirtualMachine

def layout : Layout VirtualMachine where
  blank := default
  fields := [
    .required "uuid" .string (·.uuid) fun m s => { m with uuid := s },
    .required "name" .string (·.name) fun m s => { m with name := s },
    .required "virtual_center_host" .string (·.host) fun m s => { m with host := s },
    .required "datacenter" Datacenter.codec (·.datacenter) fun m d => { m with datacenter := d },
    .required "info" VmInfo.codec (·.info) fun m i => { m with info := i }]

def codec : Codec VirtualMachine := layout.codec

def ofInfo (d : Datacenter) (i : VmInfo) : VirtualMachine := ⟨i.uuid, i.name, d.host, d, i⟩

def id (m : VirtualMachine) : String := m.info.id

def describe (m : VirtualMachine) : String := s!"{m.name} ({m.uuid}) in " ++ m.datacenter.describe

def diskOf (m : VirtualMachine) (volume : String) : Option DiskInfo :=
  m.info.disks.find? (·.volume.id = volume)

/-- The machine with a document fetched anew. Its UUID stays. -/
def renewed (m : VirtualMachine) (i : VmInfo) : VirtualMachine :=
  { m with name := i.name, info := i }

end VirtualMachine

end StorageDriver
