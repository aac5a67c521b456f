import StorageDriver.Json.Codec

namespace StorageDriver

open Json

/-- A volume document. `size` counts GiB. -/
structure VolumeInfo where
  id : String := ""
  uuid : String := ""
  name : String := ""
  size : Double := .zero
  dataStore : String := ""
  diskType : String := ""
  status : String := ""
  extra : Table Json := []
deriving DecidableEq, Repr, Inhabited

/-- An order for a new volume. `size` is a decimal text of GiB. -/
structure VolumeOrder where
  name : String
  size : String
  dataStoreType : String
  dataStore : String
  policy : String
  description : String
  bootable : Bool
  shared : Bool
deriving DecidableEq, Repr, Inhabited

namespace VolumeInfo

def layout : Layout VolumeInfo where
  blank := {}
  fields := [
    .optional "id" .string (·.id) fun v s => { v with id := s },
    .optional "uuid" .string (·.uuid) fun v s => { v with uuid := s },
    .optional "name" .string (·.name) fun v s => { v with name := s },
    .optional "size" .double (·.size) fun v d => { v with size := d },
    .optional "dataStoreId" .string (·.dataStore) fun v s => { v with dataStore := s },
    .optional "diskType" .string (·.diskType) fun v s => { v with diskType := s },
    .optional "volumeStatus" .string (·.status) fun v s => { v with status := s }]
  rest := some ((·.extra), fun v k j => { v with extra := v.extra.put k j })

def codec : Codec VolumeInfo := layout.codec

end VolumeInfo

namespace VolumeOrder

def layout : Layout VolumeOrder where
  blank := ⟨"", "", "", "", "", "", false, false⟩
  fields := [
    .required "name" .string (·.name) fun v s => { v with name := s },
    .required "size" .string (·.size) fun v s => { v with size := s },
    .required "dataStoreType" .string (·.dataStoreType) fun v s => { v with dataStoreType := s },
    .required "dataStoreId" .string (·.dataStore) fun v s => { v with dataStore := s },
    .required "volumePolicy" .string (·.policy) fun v s => { v with policy := s },
    .required "description" .string (·.description) fun v s => { v with description := s },
    .required "bootable" .bool (·.bootable) fun v b => { v with bootable := b },
    .required "shared" .bool (·.shared) fun v b => { v with shared := b }]

def codec : Codec VolumeOrder := layout.codec

end VolumeOrder

end StorageDriver
