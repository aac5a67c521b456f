import StorageDriver.Renewal

namespace StorageDriver.Node

/-- Find the machine and keep it, under the UUID asked for if there is one. -/
def find (uuid name : String) : Attempt VirtualMachine := do
  let m ← Attempt.search { name := name, uuid := uuid }
  Attempt.nodes (.keep (if uuid = "" then m.uuid else uuid) m)
  return m

def discover (uuid name : String) : Attempt Unit := do
  let _ ← find uuid name

/-- Do `body` with the lock of `name` held, and `tidy` once it is released. -/
def guarded (name : String) (body tidy : Attempt Unit) : Attempt Unit := do
  let l ← Attempt.nodes (.claim name)
  Attempt.nodes (.acquire l)
  let r ← body.outcome
  Attempt.nodes (.release l)
  tidy
  Attempt.nodes (.disclaim l)
  .ofOutcome r

def enter (uuid name : String) : Attempt Unit := do
  match ← Attempt.nodes (.setUuid name uuid) with
  | some old => if old ≠ "" ∧ old ≠ uuid then Attempt.nodes (.drop old)
  | none => pure ()
  let m ← find uuid name
  if uuid = "" then
    let _ ← Attempt.nodes (.setUuid name m.uuid)

/-- A node stays registered if its machine is not found. -/
def register (uuid name : String) : Attempt Unit := guarded name (enter uuid name) (pure ())

/-- The UUID that the cluster knows. An empty one is none. -/
def fetchUuid (name : String) : Attempt String := do
  let uuid ← Attempt.clusterUuid name
  if uuid = "" then throw (.nodeNotFound name)
  return uuid

def uuid (name : String) : Attempt String := do
  match ← Attempt.nodes (.uuid name) with
  | none => throw (.nodeNotFound name)
  | some known =>
    if known ≠ "" then return known
    let fetched ← fetchUuid name
    let _ ← Attempt.nodes (.setUuid name fetched)
    return fetched

/-- The machine of a node, renewed if it was found before. -/
def machine (uuid name : String) : Attempt VirtualMachine := do
  match ← Attempt.nodes (.machine uuid) with
  | none => find uuid name
  | some m =>
    let m ← m.renew true
    Attempt.nodes (.refresh uuid m)
    return m

def machineOf (name : String) : Attempt VirtualMachine := do
  machine (← uuid name) name

/-- Fetch the UUIDs of the nodes `names`. What fails is passed over. -/
def fill : List String → Attempt Unit
  | [] => pure ()
  | name :: names => do
    match ← (fetchUuid name).outcome with
    | .ok uuid => let _ ← Attempt.nodes (.setUuid name uuid)
    | .error _ => pure ()
    fill names

/-- Renew the machines one by one. The centers in `met` are connected already. -/
def renewAll (met : List String) : Table VirtualMachine → Attempt (List VirtualMachine)
  | [] => pure []
  | (uuid, m) :: rest => do
    let m ← m.renew (!met.contains m.host)
    Attempt.nodes (.refresh uuid m)
    return m :: (← renewAll (m.host :: met) rest)

def sweep : Attempt (List VirtualMachine) := do
  fill (← Attempt.nodes .blanks)
  renewAll [] (← Attempt.nodes .machines)

def leave (name : String) : Attempt Unit := do
  match ← Attempt.nodes (.dropUuid name) with
  | some uuid => Attempt.nodes (.drop uuid)
  | none => throw (.nodeNotFound name)

def unregister (name : String) : Attempt Unit := do
  if (← Attempt.nodes (.uuid name)).isNone then throw (.nodeNotFound name)
  guarded name (leave name) (Attempt.nodes (.retire name))

end StorageDriver.Node
