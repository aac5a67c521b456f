import StorageDriver.Json.Codec
import StorageDriver.Text.Quoted

namespace StorageDriver

inductive Error
  | notRegistered (host : String)
  | vmNotFound (name uuid : String)
  | nodeNotFound (name : String)
  | connection (host reason : String)
  | taskFailed (task detail : String)
  | taskIncomplete (task state : String)
  | rest (status : Nat) (message : String)
  | kubernetes (detail : String)
  | invalidArgument (detail : String)
  | config (detail : String)
  | cancelled
  | internal (detail : String)
deriving DecidableEq, Repr

namespace Error

def message : Error → String
  | notRegistered host => s!"virtual center {host} is not registered"
  | vmNotFound name uuid =>
    "virtual machine wasn't found (name: " ++ Text.quote name ++ ", uuid: " ++ Text.quote uuid ++
      ")"
  | nodeNotFound name => s!"node {name} wasn't found"
  | connection host reason => s!"connection to virtual center {host} failed: {reason}"
  | taskFailed task detail => s!"task {task} failed: {detail}"
  | taskIncomplete task state => s!"task {task} did not complete, last state {state}"
  | rest status message => s!"REST request failed (status {status}): {message}"
  | kubernetes detail => s!"kubernetes error: {detail}"
  | invalidArgument detail => s!"invalid argument: {detail}"
  | config detail => s!"invalid configuration: {detail}"
  | cancelled => "operation cancelled"
  | internal detail => s!"internal error: {detail}"

def kind : Error → String
  | notRegistered .. => "NotRegistered"
  | vmNotFound .. => "VmNotFound"
  | nodeNotFound .. => "NodeNotFound"
  | connection .. => "Connection"
  | taskFailed .. => "TaskFailed"
  | taskIncomplete .. => "TaskIncomplete"
  | rest .. => "Rest"
  | kubernetes .. => "Kubernetes"
  | invalidArgument .. => "InvalidArgument"
  | config .. => "Config"
  | cancelled => "Cancelled"
  | internal .. => "Internal"

/-- A search that ended without a match. -/
def isMiss : Error → Bool
  | vmNotFound .. => true
  | _ => false

open Json

def pair (first second : String) : Codec (String × String) :=
  Layout.codec {
    blank := ("", "")
    fields := [
      .required first .string (·.1) fun p s => (s, p.2),
      .required second .string (·.2) fun p s => (p.1, s)] }

def status : Codec (Nat × String) :=
  Layout.codec {
    blank := (0, "")
    fields := [
      .required "status" (.natural UInt16.size) (·.1) fun p s => (s, p.2),
      .required "message" .string (·.2) fun p s => (p.1, s)] }

def codec : Codec Error := Variant.codec [
  .payload "NotRegistered" .string
    (fun | notRegistered host => some host | _ => none) notRegistered,
  .payload "VmNotFound" (pair "name" "uuid")
    (fun | vmNotFound name uuid => some (name, uuid) | _ => none) fun p => vmNotFound p.1 p.2,
  .payload "NodeNotFound" .string
    (fun | nodeNotFound name => some name | _ => none) nodeNotFound,
  .payload "Connection" (pair "host" "reason")
    (fun | connection host reason => some (host, reason) | _ => none)
    fun p => connection p.1 p.2,
  .payload "TaskFailed" (pair "task_id" "detail")
    (fun | taskFailed task detail => some (task, detail) | _ => none) fun p => taskFailed p.1 p.2,
  .payload "TaskIncomplete" (pair "task_id" "state")
    (fun | taskIncomplete task state => some (task, state) | _ => none)
    fun p => taskIncomplete p.1 p.2,
  .payload "Rest" status
    (fun | rest code text => some (code, text) | _ => none) fun p => rest p.1 p.2,
  .payload "Kubernetes" .string (fun | kubernetes s => some s | _ => none) kubernetes,
  .payload "InvalidArgument" .string
    (fun | invalidArgument s => some s | _ => none) invalidArgument,
  .payload "Config" .string (fun | config s => some s | _ => none) config,
  .unit "Cancelled" cancelled,
  .payload "Internal" .string (fun | internal s => some s | _ => none) internal]

end Error

end StorageDriver
