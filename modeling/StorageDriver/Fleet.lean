import StorageDriver.Plane
import StorageDriver.Remote

namespace StorageDriver

abbrev Fleet : Type := Table Plane

namespace Fleet

/-- Of two planes with one host the later one is reached. -/
def ofPlanes (planes : List Plane) : Fleet :=
  planes.foldl (fun fleet p => fleet.put p.host p) []

def unreachable (host : String) : Error := .connection host "no route to host"

def actAt {α : Type} (host : String) (f : Plane → Except Error α × Plane) : Call Fleet α :=
  fun fleet =>
    match fleet.get? host with
    | none => (.error (unreachable host), fleet)
    | some p =>
      let (r, p) := f p
      (r, fleet.put host p)

instance : Remote Fleet where
  connect c := do
    actAt c.host fun p => p.connect c.host
    return { host := c.host, slot := 0 }
  start s q fleet :=
    match fleet.get? s.host with
    | none => (0, fleet)
    | some p =>
      let (delay, p) := p.start q
      (delay, fleet.put s.host p)
  finish s q := actAt s.host fun p => p.finish q

end Fleet

end StorageDriver
