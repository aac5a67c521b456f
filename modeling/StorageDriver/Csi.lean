import StorageDriver.Json.Codec

namespace StorageDriver.Csi

open Json

inductive AccessMode
  | readWriteOnce
  | readOnlyMany
  | readWriteMany
deriving DecidableEq, Repr

inductive AccessType
  | mount
  | block
deriving DecidableEq, Repr

structure Capability where
  mode : AccessMode
  type : AccessType := .mount
  fsType : String := "ext4"
  mountFlags : List String := []
deriving DecidableEq, Repr

/-- A provisioned volume. `context` goes to the node as it is. -/
structure Volume where
  id : String
  capacity : Nat
  context : Table String := []
deriving DecidableEq, Repr

/-- A request for a volume. A capacity of zero asks for the default. -/
structure CreateRequest where
  name : String
  capacity : Nat
  capabilities : List Capability := []
  parameters : Table String := []
deriving DecidableEq, Repr

structure Expansion where
  capacity : Nat
  nodeMustGrow : Bool
deriving DecidableEq, Repr

structure PluginInfo where
  name : String
  version : String
deriving DecidableEq, Repr

inductive PluginCapability
  | controllerService
  | onlineExpansion
deriving DecidableEq, Repr

def AccessMode.codec : Codec AccessMode := Variant.codec [
  .unit "ReadWriteOnce" readWriteOnce,
  .unit "ReadOnlyMany" readOnlyMany,
  .unit "ReadWriteMany" readWriteMany]

def AccessType.codec : Codec AccessType := Variant.codec [.unit "Mount" mount, .unit "Block" block]

def PluginCapability.codec : Codec PluginCapability := Variant.codec [
  .unit "ControllerService" controllerService,
  .unit "OnlineExpansion" onlineExpansion]

def Capability.layout : Layout Capability where
  blank := { mode := .readWriteOnce }
  fields := [
    .required "access_mode" AccessMode.codec (·.mode) fun c m => { c with mode := m },
    .optional "access_type" AccessType.codec (·.type) fun c t => { c with type := t },
    .optional "fs_type" .string (·.fsType) fun c s => { c with fsType := s },
    .optional "mount_flags" (.list .string) (·.mountFlags) fun c ss => { c with mountFlags := ss }]

def Capability.codec : Codec Capability := layout.codec

def Volume.layout : Layout Volume where
  blank := { id := "", capacity := 0 }
  fields := [
    .required "volume_id" .string (·.id) fun v s => { v with id := s },
    .required "capacity_bytes" (.natural UInt64.size) (·.capacity) fun v n =>
      { v with capacity := n },
    .optional "volume_context" .texts (·.context) fun v m => { v with context := m }]

def Volume.codec : Codec Volume := layout.codec

def CreateRequest.layout : Layout CreateRequest where
  blank := { name := "", capacity := 0 }
  fields := [
    .required "name" .string (·.name) fun r s => { r with name := s },
    .required "capacity_bytes" (.natural UInt64.size) (·.capacity) fun r n =>
      { r with capacity := n },
    .optional "volume_capabilities" (.list Capability.codec) (·.capabilities)
      fun r cs => { r with capabilities := cs },
    .optional "parameters" .texts (·.parameters) fun r m => { r with parameters := m }]

def CreateRequest.codec : Codec CreateRequest := layout.codec

def CreateRequest.parameter (r : CreateRequest) (key : String) : Option String :=
  (r.parameters.find? fun p =>
    p.1.toList.map Char.toLower = key.toList.map Char.toLower).map (·.2)

def Expansion.layout : Layout Expansion where
  blank := ⟨0, false⟩
  fields := [
    .required "capacity_bytes" (.natural UInt64.size) (·.capacity) fun e n =>
      { e with capacity := n },
    .required "node_expansion_required" .bool (·.nodeMustGrow)
      fun e b => { e with nodeMustGrow := b }]

def Expansion.codec : Codec Expansion := layout.codec

def PluginInfo.layout : Layout PluginInfo where
  blank := ⟨"", ""⟩
  fields := [
    .required "name" .string (·.name) fun p s => { p with name := s },
    .required "vendor_version" .string (·.version) fun p s => { p with version := s }]

def PluginInfo.codec : Codec PluginInfo := layout.codec

end StorageDriver.Csi
