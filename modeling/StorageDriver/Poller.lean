import StorageDriver.Proc

namespace StorageDriver

/-- Milliseconds before the first reading, of the first pause, and altogether. -/
structure Poller where
  delay : Nat := 100
  pause : Nat := 100
  limit : Nat := 60000
deriving DecidableEq, Repr

namespace Poller

/-- Read the task until it ends. The last pause ends where the time does. At most `fuel + 1`
readings are made. -/
def watch (p : Poller) (s : Session) (t : Task) :
    (fuel polls elapsed pause : Nat) → Attempt Task.Outcome
  | fuel, polls, elapsed, pause => do
    let info ← Attempt.ask s (.task t.id)
    let state := Task.State.ofText info.state
    let outcome := { task := t, state := state, detail := info.detail, polls := polls + 1 }
    if state.isTerminal ∨ p.limit ≤ elapsed then return outcome
    match fuel with
    | 0 => return outcome
    | fuel + 1 =>
      let rest := min pause (p.limit - elapsed)
      Attempt.sleep rest
      watch p s t fuel (polls + 1) (elapsed + rest) (pause * 2)

/-- Pauses of a millisecond or more use up the limit, and without pauses readings are counted up
to 2 ^ 32. -/
def poll (p : Poller) (s : Session) (t : Task) : Attempt Task.Outcome := do
  if t.id = "" then throw (.invalidArgument "task id is empty")
  Attempt.sleep p.delay
  p.watch s t (p.limit + UInt32.size) 0 p.delay p.pause

def wait (p : Poller) (s : Session) (t : Task) : Attempt Unit := do
  .ofOutcome (← p.poll s t).result

end Poller

end StorageDriver
