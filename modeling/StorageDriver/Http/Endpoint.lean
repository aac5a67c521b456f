import StorageDriver.Http.Message
import StorageDriver.Request

namespace StorageDriver.Http

open Json

/-- What a request says apart from who says it. `path` stands behind the origin and a slash. -/
structure Endpoint (α : Type) where
  method : Method
  path : String
  body : Option Json
  reply : Codec α

def paged {α : Type} (c : Codec α) : Codec (List α) :=
  (Page.codec c).map (·.items) fun items => { items := items }

def started : Codec Task := TaskReply.codec.map (fun r => ⟨r.task⟩) fun t => ⟨t.id⟩

def Endpoint.get {α : Type} (path : String) (reply : Codec α) : Endpoint α :=
  { method := .get, path := path, body := none, reply := reply }

def Endpoint.ofCommand : Command → Endpoint Task
  | .putMachine doc =>
    { method := .put, path := s!"vms/{doc.id}", body := some (VmInfo.codec.encode doc),
      reply := started }
  | .createVolume order =>
    { method := .post, path := "volumes", body := some (VolumeOrder.codec.encode order),
      reply := started }
  | .deleteVolume id wipe =>
    { method := .delete, path := s!"volumes/{id}/?removeData={wipe}", body := none,
      reply := started }
  | .putVolume doc =>
    { method := .put, path := s!"volumes/{doc.id}", body := some (VolumeInfo.codec.encode doc),
      reply := started }

def Endpoint.ofRequest : (q : Request) → Endpoint q.Reply
  | .datacenters => .get "datacenters" DatacenterInfo.codec.list
  | .datacenter id => .get s!"datacenters/{id}" DatacenterInfo.codec
  | .machines id => .get s!"datacenters/{id}/vms" (paged VmInfo.codec)
  | .machine id => .get s!"vms/{id}" VmInfo.codec
  | .volume id => .get s!"volumes/{id}" VolumeInfo.codec
  | .volumes dataStore => .get s!"storages/{dataStore}/volumes" (paged VolumeInfo.codec)
  | .task id => .get s!"tasks/{id}" TaskInfo.codec
  | .command c => .ofCommand c

end StorageDriver.Http
