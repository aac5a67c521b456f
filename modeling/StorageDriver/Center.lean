import StorageDriver.Text.Blank
import StorageDriver.Text.Quoted

namespace StorageDriver

namespace Center

/-- An empty list of paths allows every datacenter. -/
structure Config where
  scheme : String := "https"
  host : String
  port : Nat
  user : String
  password : String
  insecure : Bool := false
  paths : List String := []
deriving DecidableEq, Repr, Inhabited

/-- The datacenters of a comma-separated list. Blank pieces name none. -/
def parsePaths (raw : String) : List String :=
  ((Text.splitChars ',' raw.toList).map Text.trimChars).filterMap fun p =>
    if p.isEmpty then none else some (String.ofList p)

namespace Config

def allows (c : Config) (id name : String) : Bool :=
  c.paths.isEmpty || c.paths.any fun p => p = id || p = name

def describe (c : Config) : String := s!"{c.scheme}://{c.host}:{c.port}"

def details (c : Config) : String :=
  Text.record "VirtualCenterConfig" [
    ("scheme", Text.quote c.scheme),
    ("host", Text.quote c.host),
    ("port", toString c.port),
    ("username", Text.quote c.user),
    ("password", Text.quote "<redacted>"),
    ("insecure", toString c.insecure),
    ("datacenter_paths", Text.quoteList c.paths)] false

def handleDetails (c : Config) : String :=
  Text.record "VirtualCenter" [("config", c.details)] true

end Config

end Center

end StorageDriver
