import StorageDriver.Center
import StorageDriver.Error

namespace StorageDriver

open Json

namespace Config

structure Global where
  cluster : String := ""
  poolSize : Nat := 4
deriving DecidableEq, Repr, Inhabited

/-- A virtual center as configured. `datacenters` is a comma-separated list. -/
structure Entry where
  host : String
  port : Nat := 443
  user : String
  password : String
  insecure : Bool := false
  datacenters : String := ""
deriving DecidableEq, Repr, Inhabited

end Config

structure Config where
  global : Config.Global := {}
  entries : List Config.Entry := []
deriving DecidableEq, Repr, Inhabited

namespace Config

def Global.layout : Layout Global where
  blank := {}
  fields := [
    .optional "cluster_id" .string (·.cluster) fun g s => { g with cluster := s },
    .optional "resolver_pool_size" (.natural UInt64.size) (·.poolSize)
      fun g n => { g with poolSize := n }]

def Entry.layout : Layout Entry where
  blank := { host := "", user := "", password := "" }
  fields := [
    .required "host" .string (·.host) fun e s => { e with host := s },
    .optional "port" (.natural UInt16.size) (·.port) fun e n => { e with port := n },
    .required "user" .string (·.user) fun e s => { e with user := s },
    .required "password" .string (·.password) fun e s => { e with password := s },
    .optional "insecure" .bool (·.insecure) fun e b => { e with insecure := b },
    .optional "datacenters" .string (·.datacenters) fun e s => { e with datacenters := s }]

def layout : Layout Config where
  blank := {}
  fields := [
    .optional "global" Global.layout.codec (·.global) fun c g => { c with global := g },
    .optional "virtual_centers" (.list Entry.layout.codec) (·.entries)
      fun c es => { c with entries := es }]

def codec : Codec Config := layout.codec

def Entry.center (e : Entry) : Center.Config where
  host := e.host
  port := e.port
  user := e.user
  password := e.password
  insecure := e.insecure
  paths := Center.parsePaths e.datacenters

def Entry.details (e : Entry) : String :=
  Text.record "VirtualCenterEntry" [
    ("host", Text.quote e.host),
    ("port", toString e.port),
    ("user", Text.quote e.user),
    ("password", Text.quote "<redacted>"),
    ("insecure", toString e.insecure),
    ("datacenters", Text.quote e.datacenters)] false

/-- The fault of the first entry that has one, the host before the port. -/
def checkEntries (i : Nat) : List Entry → Except Error Unit
  | [] => .ok ()
  | e :: es =>
    if (Text.trimChars e.host.toList).isEmpty then
      .error (.config s!"virtual_centers[{i}]: host is empty")
    else if e.port = 0 then
      .error (.config s!"virtual_centers[{i}] ({e.host}): port must be non-zero")
    else checkEntries (i + 1) es

def validate (c : Config) : Except Error Unit := do
  if c.entries.isEmpty then throw (.config "no virtual center configured")
  checkEntries 0 c.entries
  if c.global.poolSize = 0 then throw (.config "resolver_pool_size must be non-zero")

def centers (c : Config) : List Center.Config := c.entries.map Entry.center

end Config

end StorageDriver
