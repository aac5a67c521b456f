import StorageDriver.Place
import StorageDriver.Text.Quoted

namespace StorageDriver

/-- `claims` counts those who hold the lock or mean to. -/
structure Nodes.Lock where
  claims : Nat := 0
  held : Bool := false
deriving DecidableEq, Repr

/-- `made` has all locks, `locks` those that names have. -/
structure Nodes where
  uuids : Table String := []
  machines : Table VirtualMachine := []
  locks : Table Nat := []
  made : List Nodes.Lock := []
deriving DecidableEq, Repr

namespace Nodes

inductive Op
  /-- The UUID registered for a name. It may be empty. -/
  | uuid (name : String)
  /-- Register a UUID for a name. Answers the one before. -/
  | setUuid (name uuid : String)
  | dropUuid (name : String)
  | machine (uuid : String)
  | keep (uuid : String) (m : VirtualMachine)
  /-- Keep `m` if there is a machine under the UUID. -/
  | refresh (uuid : String) (m : VirtualMachine)
  | drop (uuid : String)
  /-- The names without a UUID. -/
  | blanks
  | machines
  /-- Mean to hold the lock of a name, which makes one if there is none. Answers which it is. -/
  | claim (name : String)
  | acquire (lock : Nat)
  | release (lock : Nat)
  /-- Take the lock of a name out of the table unless others claim it. -/
  | retire (name : String)
  | disclaim (lock : Nat)
deriving DecidableEq, Repr

abbrev Op.Answer : Op → Type
  | uuid _ => Option String
  | setUuid _ _ => Option String
  | dropUuid _ => Option String
  | machine _ => Option VirtualMachine
  | blanks => List String
  | machines => Table VirtualMachine
  | claim _ => Nat
  | _ => Unit

def lock (n : Nodes) (l : Nat) : Lock := n.made.getD l {}

def changeLock (n : Nodes) (l : Nat) (f : Lock → Lock) : Nodes :=
  { n with made := n.made.modify l f }

def apply : (op : Op) → Nodes → op.Answer × Nodes
  | .uuid name, n => (n.uuids.get? name, n)
  | .setUuid name uuid, n => (n.uuids.get? name, { n with uuids := n.uuids.put name uuid })
  | .dropUuid name, n => (n.uuids.get? name, { n with uuids := n.uuids.erase name })
  | .machine uuid, n => (n.machines.get? uuid, n)
  | .keep uuid m, n => ((), { n with machines := n.machines.put uuid m })
  | .refresh uuid m, n =>
    ((), if n.machines.has uuid then { n with machines := n.machines.put uuid m } else n)
  | .drop uuid, n => ((), { n with machines := n.machines.erase uuid })
  | .blanks, n => ((n.uuids.filter (·.2 = "")).map (·.1), n)
  | .machines, n => (n.machines, n)
  | .claim name, n =>
    match n.locks.get? name with
    | some l => (l, n.changeLock l fun k => { k with claims := k.claims + 1 })
    | none =>
      (n.made.length,
        { n with locks := n.locks.put name n.made.length, made := n.made ++ [{ claims := 1 }] })
  | .acquire l, n => ((), n.changeLock l fun k => { k with held := true })
  | .release l, n => ((), n.changeLock l fun k => { k with held := false })
  | .retire name, n =>
    match n.locks.get? name with
    | some l =>
      ((), if (n.lock l).claims ≤ 1 then { n with locks := n.locks.erase name } else n)
    | none => ((), n)
  | .disclaim l, n => ((), n.changeLock l fun k => { k with claims := k.claims - 1 })

/-- Nobody acquires a lock that is held. All else can be done at any time. -/
def enabled (n : Nodes) : Op → Bool
  | .acquire l => !(n.lock l).held
  | _ => true

def names (n : Nodes) : List String := n.uuids.map (·.1)

def details (n : Nodes) : String :=
  Text.record "NodeRegistry" [
    ("registered", toString n.uuids.length),
    ("discovered", toString n.machines.length)] true

end Nodes

end StorageDriver
