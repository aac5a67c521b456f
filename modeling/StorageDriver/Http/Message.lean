import StorageDriver.Center
import StorageDriver.Http.Target
import StorageDriver.Json.Basic

namespace StorageDriver.Http

inductive Method
  | get
  | post
  | put
  | delete
deriving DecidableEq, Repr

def Method.text : Method → String
  | get => "GET"
  | post => "POST"
  | put => "PUT"
  | delete => "DELETE"

structure Origin where
  scheme : String
  host : String
  port : Nat
deriving DecidableEq, Repr

namespace Origin

def ofCenter (c : Center.Config) : Origin := ⟨c.scheme, c.host.map Char.toLower, c.port⟩

def marks : List Char := ['#', '/', ':', '<', '>', '?', '@', '[', '\\', ']', '^', '|', '%']

/-- Whether a URL can name the origin by a plain name or an IPv4 address. The other hosts of URLs,
IPv6 addresses in brackets and names that are encoded for the DNS or for the URL, are left out: here
no message gets to them. -/
def isLegal (o : Origin) : Bool :=
  o.host ≠ "" && o.host.toList.all fun c => Target.isGraphic c && !marks.contains c

def isDefaultPort (o : Origin) : Bool :=
  (o.scheme = "https" && o.port = 443) || (o.scheme = "http" && o.port = 80)

/-- The origin in a URL, where the default port is left out. -/
def url (o : Origin) : String :=
  s!"{o.scheme}://{o.host}" ++ if o.isDefaultPort then "" else s!":{o.port}"

end Origin

structure Message where
  method : Method
  origin : Origin
  target : Target
  authorization : String
  version : String := "5.6"
  body : Option Json := none
deriving DecidableEq, Repr

/-- `whole` tells whether the body came to its end. -/
structure Response where
  status : Nat := 200
  body : String := ""
  whole : Bool := true
deriving DecidableEq, Repr

/-- Whatever carries messages to their servers. A message may remain without an answer. -/
class Transport (W : Type) where
  exchange : Message → W → Option Response × W

end StorageDriver.Http
