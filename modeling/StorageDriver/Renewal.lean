import StorageDriver.Proc

namespace StorageDriver

def Datacenter.lookup (d : Datacenter) (q : Query) : Attempt VirtualMachine := do
  if q.isEmpty then throw Query.unfit
  let s ← Attempt.client d.host
  let ms ← Attempt.ask s (.machines d.id)
  .ofOutcome (q.answer d ms)

/-- The session with `host`, opened anew if asked for. -/
def Attempt.session (host : String) (reconnect : Bool) : Attempt Session := do
  if reconnect then Attempt.connect host
  Attempt.client host

def Datacenter.renew (d : Datacenter) (reconnect : Bool) : Attempt Datacenter := do
  let s ← Attempt.session d.host reconnect
  let info ← Attempt.ask s (.datacenter d.id)
  return { d with name := info.name }

def VirtualMachine.renew (m : VirtualMachine) (reconnect : Bool) : Attempt VirtualMachine := do
  let s ← Attempt.session m.host reconnect
  return m.renewed (← Attempt.ask s (.machine m.id))

end StorageDriver
