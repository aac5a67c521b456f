import StorageDriver.Document.Volume

namespace StorageDriver

open Json

structure DiskInfo where
  id : String := ""
  label : String := ""
  scsi : String := ""
  enabled : Bool := false
  bus : String := ""
  mode : String := ""
  native : Bool := false
  queues : Nat := 0
  volume : VolumeInfo := {}
  extra : Table Json := []
deriving DecidableEq, Repr, Inhabited

structure NicInfo where
  id : String := ""
  name : String := ""
  mac : String := ""
  ip : String := ""
  network : String := ""
  extra : Table Json := []
deriving DecidableEq, Repr, Inhabited

structure VmInfo where
  id : String := ""
  name : String := ""
  uuid : String := ""
  state : String := ""
  status : String := ""
  host : String := ""
  hostName : String := ""
  hostIp : String := ""
  datacenter : String := ""
  disks : List DiskInfo := []
  nics : List NicInfo := []
  vncPassword : Option String := none
  extra : Table Json := []
deriving DecidableEq, Repr, Inhabited

namespace DiskInfo

def layout : Layout DiskInfo where
  blank := {}
  fields := [
    .optional "id" .string (·.id) fun d s => { d with id := s },
    .optional "label" .string (·.label) fun d s => { d with label := s },
    .optional "scsiId" .string (·.scsi) fun d s => { d with scsi := s },
    .optional "enabled" .bool (·.enabled) fun d b => { d with enabled := b },
    .optional "busModel" .string (·.bus) fun d s => { d with bus := s },
    .optional "readWriteModel" .string (·.mode) fun d s => { d with mode := s },
    .optional "enableNativeIO" .bool (·.native) fun d b => { d with native := b },
    .optional "queueNum" (.natural UInt32.size) (·.queues) fun d n => { d with queues := n },
    .optional "volume" VolumeInfo.codec (·.volume) fun d v => { d with volume := v }]
  rest := some ((·.extra), fun d k j => { d with extra := d.extra.put k j })

def codec : Codec DiskInfo := layout.codec

end DiskInfo

namespace NicInfo

def layout : Layout NicInfo where
  blank := {}
  fields := [
    .optional "id" .string (·.id) fun n s => { n with id := s },
    .optional "name" .string (·.name) fun n s => { n with name := s },
    .optional "mac" .string (·.mac) fun n s => { n with mac := s },
    .optional "ip" .string (·.ip) fun n s => { n with ip := s },
    .optional "networkName" .string (·.network) fun n s => { n with network := s }]
  rest := some ((·.extra), fun n k j => { n with extra := n.extra.put k j })

def codec : Codec NicInfo := layout.codec

end NicInfo

namespace VmInfo

def layout : Layout VmInfo where
  blank := {}
  fields := [
    .required "id" .string (·.id) fun m s => { m with id := s },
    .optional "name" .string (·.name) fun m s => { m with name := s },
    .optional "uuid" .string (·.uuid) fun m s => { m with uuid := s },
    .optional "state" .string (·.state) fun m s => { m with state := s },
    .optional "status" .string (·.status) fun m s => { m with status := s },
    .optional "hostId" .string (·.host) fun m s => { m with host := s },
    .optional "hostName" .string (·.hostName) fun m s => { m with hostName := s },
    .optional "hostIp" .string (·.hostIp) fun m s => { m with hostIp := s },
    .optional "dataCenterId" .string (·.datacenter) fun m s => { m with datacenter := s },
    .optional "disks" (.list DiskInfo.codec) (·.disks) fun m ds => { m with disks := ds },
    .optional "nics" (.list NicInfo.codec) (·.nics) fun m ns => { m with nics := ns },
    .omitted "vncPasswd" .string (·.vncPassword) fun m s => { m with vncPassword := s }]
  rest := some ((·.extra), fun m k j => { m with extra := m.extra.put k j })

def codec : Codec VmInfo := layout.codec

end VmInfo

end StorageDriver
