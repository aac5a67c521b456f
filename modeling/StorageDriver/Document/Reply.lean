import StorageDriver.Json.Codec

namespace StorageDriver

open Json

structure DatacenterInfo where
  id : String := ""
  name : String := ""
  description : String := ""
  hosts : Nat := 0
  vms : Nat := 0
deriving DecidableEq, Repr, Inhabited

structure TaskInfo where
  id : String := ""
  state : String := ""
  progress : Nat := 0
  detail : String := ""
deriving DecidableEq, Repr, Inhabited

structure TaskReply where
  task : String := ""
deriving DecidableEq, Repr, Inhabited

structure Login where
  session : String := ""
  user : String := ""
  message : String := ""
deriving DecidableEq, Repr, Inhabited

structure Page (α : Type) where
  total : Nat := 0
  items : List α := []
deriving DecidableEq, Repr, Inhabited

def DatacenterInfo.layout : Layout DatacenterInfo where
  blank := {}
  fields := [
    .required "id" .string (·.id) fun d s => { d with id := s },
    .optional "name" .string (·.name) fun d s => { d with name := s },
    .optional "description" .string (·.description) fun d s => { d with description := s },
    .optional "hostNum" (.natural UInt32.size) (·.hosts) fun d n => { d with hosts := n },
    .optional "vmNum" (.natural UInt32.size) (·.vms) fun d n => { d with vms := n }]

def DatacenterInfo.codec : Codec DatacenterInfo := layout.codec

def TaskInfo.layout : Layout TaskInfo where
  blank := {}
  fields := [
    .optional "id" .string (·.id) fun t s => { t with id := s },
    .optional "state" .string (·.state) fun t s => { t with state := s },
    .optional "process" (.natural UInt32.size) (·.progress) fun t n => { t with progress := n },
    (Field.optional "detail" .string (·.detail) fun t s => { t with detail := s }).called
      "message"]

def TaskInfo.codec : Codec TaskInfo := layout.codec

def TaskReply.layout : Layout TaskReply where
  blank := {}
  fields := [.required "taskId" .string (·.task) fun t s => { t with task := s }]

def TaskReply.codec : Codec TaskReply := layout.codec

/-- The plane spells the session `sessonId`. -/
def Login.layout : Layout Login where
  blank := {}
  fields := [
    (Field.optional "sessonId" .string (·.session) fun l s => { l with session := s }).called
      "sessionId",
    .optional "userId" .string (·.user) fun l s => { l with user := s },
    .optional "message" .string (·.message) fun l s => { l with message := s }]

def Login.codec : Codec Login := layout.codec

def Page.layout {α : Type} (c : Codec α) : Layout (Page α) where
  blank := {}
  fields := [
    .optional "totalSize" (.natural UInt64.size) (·.total) fun p n => { p with total := n },
    .optional "items" (.list c) (·.items) fun p as => { p with items := as }]

def Page.codec {α : Type} (c : Codec α) : Codec (Page α) := (layout c).codec

end StorageDriver
