import StorageDriver.Center
import StorageDriver.Nodes
import StorageDriver.Request
import StorageDriver.Search.Query

namespace StorageDriver

inductive Action
  /-- The configuration of a registered center. -/
  | center (host : String)
  | connect (host : String)
  /-- The session with a center, opened if there is none. -/
  | client (host : String)
  | ask (s : Session) (q : Request)
  | sleep (ms : Nat)
  | search (q : Query)
  /-- The UUID that the cluster knows for a node. -/
  | clusterUuid (node : String)
  | nodes (op : Nodes.Op)
deriving DecidableEq, Repr

abbrev Action.Answer : Action → Type
  | center _ => Except Error Center.Config
  | connect _ => Except Error Unit
  | client _ => Except Error Session
  | ask _ q => Except Error q.Reply
  | sleep _ => Unit
  | search _ => Except Error VirtualMachine
  | clusterUuid _ => Except Error String
  | nodes op => op.Answer

inductive Proc (α : Type) : Type
  | done (a : α)
  | act (a : Action) (next : a.Answer → Proc α)

namespace Proc

variable {α β γ : Type}

def bind : Proc α → (α → Proc β) → Proc β
  | done a, f => f a
  | act a next, f => act a fun x => (next x).bind f

instance : Monad Proc where
  pure := done
  bind := bind

theorem bind_done (p : Proc α) : p.bind done = p := by
  induction p with
  | done => rfl
  | act a next ih => simp [bind, ih]

theorem bind_assoc (p : Proc α) (f : α → Proc β) (g : β → Proc γ) :
    (p.bind f).bind g = p.bind fun a => (f a).bind g := by
  induction p with
  | done => rfl
  | act a next ih => simp [bind, ih]

instance : LawfulMonad Proc := LawfulMonad.mk' Proc bind_done (fun _ _ => rfl) bind_assoc

end Proc

abbrev Attempt (α : Type) : Type := ExceptT Error Proc α

namespace Attempt

/-- Run `p` and answer what came of it, whatever that is. -/
def outcome {α : Type} (p : Attempt α) : Attempt (Except Error α) := ExceptT.lift p.run

def ofOutcome {α : Type} (r : Except Error α) : Attempt α := ExceptT.mk (pure r)

def connect (host : String) : Attempt Unit := .mk (.act (.connect host) .done)

def client (host : String) : Attempt Session := .mk (.act (.client host) .done)

def center (host : String) : Attempt Center.Config := .mk (.act (.center host) .done)

def ask (s : Session) (q : Request) : Attempt q.Reply := .mk (.act (.ask s q) .done)

def search (q : Query) : Attempt VirtualMachine := .mk (.act (.search q) .done)

def clusterUuid (node : String) : Attempt String := .mk (.act (.clusterUuid node) .done)

def sleep (ms : Nat) : Attempt Unit := .lift (.act (.sleep ms) .done)

def nodes (op : Nodes.Op) : Attempt op.Answer := .lift (.act (.nodes op) .done)

end Attempt

end StorageDriver
