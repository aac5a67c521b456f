import StorageDriver.Error
import StorageDriver.Place

namespace StorageDriver

/-- The UUID decides, and without one the name does. -/
structure Query where
  name : String
  uuid : String
deriving DecidableEq, Repr

namespace Query

def isEmpty (q : Query) : Bool := q.name = "" && q.uuid = ""

def hits (q : Query) (m : VmInfo) : Bool :=
  if q.uuid = "" then m.name = q.name else m.uuid = q.uuid

def missed (q : Query) : Error := .vmNotFound q.name q.uuid

def unfit : Error := .invalidArgument "either a VM name or a UUID is required"

/-- The first hit among the machines of `d`. -/
def answer (q : Query) (d : Datacenter) (ms : List VmInfo) : Except Error VirtualMachine :=
  match ms.find? q.hits with
  | some m => .ok (.ofInfo d m)
  | none => .error q.missed

end Query

end StorageDriver
