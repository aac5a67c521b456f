import StorageDriver.Place
import StorageDriver.Remote

namespace StorageDriver

/-- A virtual center as registered, with the session opened last. -/
structure Center.Handle where
  config : Center.Config
  session : Option Session := none
deriving DecidableEq, Repr

/-- `centers` is keyed by host, `clock` counts milliseconds. -/
structure Network (R : Type) where
  centers : Table Center.Handle := []
  planes : R
  clock : Nat := 0

namespace Network

variable {R : Type}

/-- Registering a host again changes nothing. -/
def register (n : Network R) (c : Center.Config) : Network R :=
  if n.centers.has c.host then n
  else { n with centers := n.centers.put c.host { config := c } }

def hosts (n : Network R) : List String := n.centers.map (·.1)

def handle (host : String) : Call (Network R) Center.Handle := do
  match (← get).centers.get? host with
  | some h => return h
  | none => throw (.notRegistered host)

def unregister (host : String) : Call (Network R) Unit := do
  let _ ← handle host
  modify fun n => { n with centers := n.centers.erase host }

def details (n : Network R) : String :=
  Text.record "VirtualCenterRegistry" [("hosts", Text.quoteList n.hosts)] true

variable [Remote R]

def dial (host : String) (h : Center.Handle) : Call (Network R) Session := do
  let s ← fun n =>
    let (r, planes) := (Remote.connect h.config).run.run n.planes
    (r, { n with planes := planes })
  modify fun n => { n with centers := n.centers.put host { h with session := some s } }
  return s

def connect (host : String) : Call (Network R) Unit := do
  let _ ← dial host (← handle host)

def client (host : String) : Call (Network R) Session := do
  let h ← handle host
  match h.session with
  | some s => return s
  | none => dial host h

/-- Begin a request. Answers when it ends. -/
def start (s : Session) (q : Request) : StateM (Network R) Nat := fun n =>
  let (delay, planes) := (Remote.start s q).run n.planes
  (n.clock + delay, { n with planes := planes })

def finish (s : Session) (q : Request) : Call (Network R) q.Reply := fun n =>
  let (r, planes) := (Remote.finish s q).run.run n.planes
  (r, { n with planes := planes })

def await (due : Nat) : StateM (Network R) Unit :=
  modify fun n => { n with clock := max n.clock due }

def ask (s : Session) (q : Request) : Call (Network R) q.Reply := fun n =>
  let (due, n) := (start s q).run n
  (finish s q).run.run ((await due).run n).2

def datacenters (c : Center.Config) : Call (Network R) (List Datacenter) := do
  let s ← client c.host
  let all ← ask s .datacenters
  return (all.filter fun d => c.allows d.id d.name).map (Datacenter.ofInfo c.host)

end Network

end StorageDriver
