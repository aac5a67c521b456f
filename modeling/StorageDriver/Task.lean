import StorageDriver.Error

namespace StorageDriver

open Json

structure Task where
  id : String
deriving DecidableEq, Repr, Inhabited

namespace Task

def layout : Layout Task where
  blank := ⟨""⟩
  fields := [.required "task_id" .string (·.id) fun t s => { t with id := s }]

def codec : Codec Task := layout.codec

inductive State
  | finished
  | failed
  | pending (text : String)
deriving DecidableEq, Repr

namespace State

def ofText (s : String) : State :=
  if s = "FINISHED" then finished else if s = "ERROR" then failed else pending s

def text : State → String
  | finished => "FINISHED"
  | failed => "ERROR"
  | pending s => s

def isTerminal : State → Bool
  | pending _ => false
  | _ => true

def codec : Codec State := Variant.codec [
  .unit "Finished" finished,
  .unit "Error" failed,
  .payload "Pending" .string (fun | pending s => some s | _ => none) pending]

end State

structure Outcome where
  task : Task
  state : State
  detail : String
  polls : Nat
deriving DecidableEq, Repr

def Outcome.result (o : Outcome) : Except Error Unit :=
  match o.state with
  | .finished => .ok ()
  | .failed => .error (.taskFailed o.task.id o.detail)
  | .pending s => .error (.taskIncomplete o.task.id s)

end Task

end StorageDriver
