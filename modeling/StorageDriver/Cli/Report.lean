import StorageDriver.Cli.Invocation
import StorageDriver.Config.Text
import StorageDriver.Csi.Service
import StorageDriver.Driver
import StorageDriver.Json.Printer

namespace StorageDriver.Cli

open Json

structure Failure where
  purpose : Option String := none
  cause : Error
deriving DecidableEq, Repr

/-- What an invocation leaves behind: the exit code and the text on both outputs. -/
structure Report where
  exit : Nat := 0
  out : String := ""
  err : String := ""
deriving DecidableEq, Repr

abbrev Act (α : Type) : Type := ExceptT Failure Proc α

def act {α : Type} (p : Attempt α) (purpose : Option String := none) : Act α :=
  .mk ((fun r => r.mapError fun e => { purpose := purpose, cause := e }) <$> p.run)

def summary (m : VirtualMachine) : Json := .object [
  ("datacenter", .string m.datacenter.name),
  ("disks", .array (m.info.disks.map fun d =>
    .object [("id", .string d.id), ("scsiId", .string d.scsi)])),
  ("id", .string m.id),
  ("name", .string m.name),
  ("uuid", .string m.uuid),
  ("virtualCenter", .string m.host)]

/-- Register a node. One whose machine is not found by name stays registered, because the cluster
may know its UUID. -/
def ensure (n : NodeName) : Act Unit := do
  match ← (ExceptT.lift (Node.register n.uuid n.name).run : Act _) with
  | .ok _ => return ()
  | .error e =>
    if e.isMiss && n.uuid = "" then return ()
    throw { purpose := some s!"failed to register node {n.name}", cause := e }

def ensureAll : List NodeName → Act Unit
  | [] => pure ()
  | n :: ns => do
    ensure n
    ensureAll ns

/-- Do what a command says. Answers what is to be shown, if anything is. -/
def Command.run (v : Volumes) : Command → Act (Option Json)
  | .resolve name uuid => do
    let m ← act (Attempt.search { name := name, uuid := uuid })
      ("failed to resolve VM (name: " ++ Text.quote name ++ ", uuid: " ++ Text.quote uuid ++ ")")
    return some (summary m)
  | .nodesGet node => do
    ensure node
    return some (summary (← act (Node.machineOf node.name)))
  | .nodesList nodes => do
    ensureAll nodes
    return some (.array ((← act Node.sweep).map summary))
  | .volumeCreate name capacity dataStore fsType => do
    let parameters := ("datastoreurl", dataStore) :: (fsType.map ("fstype", ·)).toList
    let volume ← act
      (Csi.create v { name := name, capacity := capacity, parameters := parameters })
      "failed to create volume"
    return some (Csi.Volume.codec.encode volume)
  | .volumeDelete id => do
    act (Csi.delete v id) s!"failed to delete volume {id}"
    return none
  | .volumeExpand id capacity block => do
    let capability : Option Csi.Capability :=
      if block then some { mode := .readWriteOnce, type := .block } else none
    let e ← act (Csi.expand v id capacity capability) s!"failed to expand volume {id}"
    return some (Csi.Expansion.codec.encode e)
  | .volumeAttach id node => do
    ensure node
    let context ← act (Csi.publish v id node.name)
      s!"failed to attach volume {id} to {node.name}"
    return some (Codec.texts.encode context)
  | .volumeDetach id node => do
    ensure node
    act (Csi.unpublish v id node.name) s!"failed to detach volume {id} from {node.name}"
    return none
  | .taskWait host id => do
    let s ← act (Attempt.client host)
    let o ← act (Poller.poll {} s ⟨id⟩)
    return some (.object [
      ("detail", .string o.detail),
      ("polls", .number (.int o.polls)),
      ("state", .string o.state.text),
      ("taskId", .string o.task.id)])
  | .info => do
    return some (.object [
      ("capabilities", Csi.PluginCapability.codec.list.encode Csi.capabilities),
      ("plugin", Csi.PluginInfo.codec.encode Csi.info),
      ("ready", .bool (← act (Csi.ready v)))])

def indented (s : String) : String :=
  String.ofList (s.toList.flatMap fun c => if c = '\n' then "\n    ".toList else [c])

def Failure.report (f : Failure) : Report where
  exit := 1
  err := match f.purpose with
    | none => s!"Error: {f.cause.message}\n"
    | some purpose => s!"Error: {purpose}\n\nCaused by:\n    " ++ indented f.cause.message ++ "\n"

def Fault.report : Fault → Report
  | .version => { out := s!"{programName} {programVersion}\n" }
  | .help => { out := s!"Usage: {programName} [OPTIONS] <COMMAND>\n" }
  | _ => { exit := 2, err := s!"Usage: {programName} [OPTIONS] <COMMAND>\n" }

def configFailure (f : Config.Fault) : Failure where
  purpose := some "failed to load driver configuration"
  cause := match f with
    | .unread => .config "yaml"
    | .invalid e => e

def Invocation.path (i : Invocation) (environment : Option String) : String :=
  i.config.getD (environment.getD Config.defaultPath)

def Invocation.run {R : Type} [Remote R] (i : Invocation) (path : String) (file : Option ByteArray)
    (planes : R) : Report × R :=
  match Config.ofFile path file with
  | .error f => ((configFailure f).report, planes)
  | .ok c =>
    match c.volumes? with
    | none => (Failure.report { cause := .config "no virtual center configured" }, planes)
    | some v =>
      let (r, w) := (i.command.run v).run.run (c.setting none) (c.world i.insecure planes)
      (match r with
        | .error f => f.report
        | .ok none => {}
        | .ok (some j) => { out := j.pretty 0 ++ "\n" },
        w.net.planes)

end StorageDriver.Cli
