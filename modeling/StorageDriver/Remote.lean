import StorageDriver.Center
import StorageDriver.Request

namespace StorageDriver

/-- A computation that changes a state and may fail. What it did before it failed stays done. -/
abbrev Call (σ α : Type) : Type := ExceptT Error (StateM σ) α

/-- A request is begun, takes its time and is finished. What it answers is decided at its end. -/
class Remote (R : Type) where
  connect : Center.Config → Call R Session
  /-- Begin a request. Answers how many milliseconds pass before its end. -/
  start : Session → Request → StateM R Nat
  finish : Session → (q : Request) → Call R q.Reply

end StorageDriver
