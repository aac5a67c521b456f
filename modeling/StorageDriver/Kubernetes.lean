import StorageDriver.Error
import StorageDriver.Text.Lowercase

namespace StorageDriver.Kubernetes

open Json

/-- The provider's id of a node, and the UUID that the node reports of itself. -/
structure Node where
  provider : Option String := none
  system : Option String := none
deriving DecidableEq, Repr

/-- The UUID in a provider's id, which may carry the scheme of this driver. -/
def uuidOfProvider (id : String) : String :=
  match id.toList with
  | 'i' :: 'c' :: 's' :: ':' :: '/' :: '/' :: cs => String.ofList cs
  | _ => id

/-- The provider's id counts, and without one the system's UUID in lower case. -/
def Node.uuid (n : Node) : String :=
  let provider := n.provider.getD ""
  if provider ≠ "" then uuidOfProvider provider else Text.lower (n.system.getD "")

def object {α : Type} (blank : α) (fields : List (Json.Field α)) : Codec α :=
  Layout.codec { blank := blank, fields := fields, rest := some (fun _ => [], fun a _ _ => a) }

/-- A member that has to be of its type but does not count. -/
def checked {α β : Type} (name : String) (c : Codec β) : Json.Field α :=
  .omitted name c (fun _ => none) fun a _ => a

def spec : Codec (Option String) :=
  object none [
    .omitted "providerID" .string id fun _ s => s,
    checked "externalID" .string,
    checked "podCIDR" .string,
    checked "podCIDRs" (.list .string),
    checked "unschedulable" .bool]

def systemInfo : Codec (Option String) :=
  object none ([
    .omitted "systemUUID" .string id fun _ s => s] ++
    ["architecture", "bootID", "containerRuntimeVersion", "kernelVersion", "kubeProxyVersion",
      "kubeletVersion", "machineID", "operatingSystem", "osImage"].map (checked · .string))

def address : Codec Unit :=
  object () [checked "address" .string, checked "type" .string]

def status : Codec (Option String) :=
  object none [
    .omitted "nodeInfo" systemInfo (fun s => some s) fun _ i => i.join,
    checked "addresses" (.list address),
    checked "capacity" .texts,
    checked "allocatable" .texts,
    checked "phase" .string]

def metadata : Codec Unit :=
  object () ([
    checked "annotations" .texts,
    checked "labels" .texts,
    checked "finalizers" (.list .string)] ++
    ["generateName", "name", "namespace", "resourceVersion", "selfLink", "uid"].map
      (checked · .string))

def exactly (s : String) : Codec String where
  encode := .string
  decode n r := do
    let t ← Codec.string.decode n r
    if t = s then return t else .error .mismatch

def Node.codec : Codec Node :=
  object {} [
    .optional "apiVersion" (exactly "v1") (fun _ => "v1") fun n _ => n,
    .optional "kind" (exactly "Node") (fun _ => "Node") fun n _ => n,
    checked "metadata" metadata,
    .omitted "spec" spec (fun n => some n.provider) fun n s => { n with provider := s.join },
    .omitted "status" status (fun n => some n.system) fun n s => { n with system := s.join }]

def path (name : String) : String := "/api/v1/nodes/" ++ name

def isNameable (name : String) : Bool :=
  name ≠ "" && name.toList.all fun c => ' ' < c && c ≠ '<' && c ≠ '>' && c ≠ '\x60'

/-- The UUID of the node `name` where the API answers with `code` and `body`. -/
def uuidOf (name : String) (code : Nat) (body : String) : Except Error String :=
  match if isNameable name && code < 400 then (Node.codec.decodeText body).toOption else none with
  | some n => .ok n.uuid
  | none => .error (.kubernetes s!"get node {name}: ")

end StorageDriver.Kubernetes
