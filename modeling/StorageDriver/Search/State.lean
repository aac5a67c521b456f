import StorageDriver.Search.Query
import StorageDriver.Search.Stream

namespace StorageDriver.Search

/-- A worker that waits knows when its request ends. -/
inductive Worker
  | idle
  | opening (d : Datacenter)
  | waiting (d : Datacenter) (s : Session) (due : Nat)
  | reporting (r : Except Error VirtualMachine)
  | ended

inductive Phase
  | gathering
  | closing
  | done
deriving DecidableEq, Repr

/-- The parties of a search. `result` and `fault` are the coordinator's two ears, `close` is its
last act, and `abandon` stands for whoever asked and has given up. -/
inductive Move
  | producer
  | worker (i : Nat)
  | result
  | fault
  | close
  | abandon
deriving DecidableEq, Repr

namespace Worker

def hasEnded : Worker → Bool
  | ended => true
  | _ => false

/-- A miss is not reported. -/
def after : Except Error VirtualMachine → Worker
  | .error e => if e.isMiss then idle else reporting (.error e)
  | r => reporting r

def due? : Worker → Option Nat
  | waiting _ _ due => some due
  | _ => none

end Worker

/-- `listening` until the stream has no failure to tell any more. `cancelled` stops the producer
and the workers. -/
structure State (R : Type) where
  query : Query
  net : Network R
  stream : Stream
  workers : List Worker
  results : List (Except Error VirtualMachine) := []
  found : Option VirtualMachine := none
  failed : Option Error := none
  listening : Bool := true
  cancelled : Bool := false
  abandoned : Bool := false
  phase : Phase := .gathering

namespace State

variable {R : Type}

def blame (s : State R) (e : Error) : State R := { s with failed := s.failed <|> some e }

def put (s : State R) (i : Nat) (w : Worker) : State R := { s with workers := s.workers.set i w }

variable [Remote R]

def produce (s : State R) : Option (State R) :=
  (s.stream.step s.cancelled s.net).map fun (t, n) => { s with stream := t, net := n }

def take (s : State R) (i : Nat) : Option (State R) :=
  match s.stream.queue with
  | d :: ds =>
    some ({ s with stream := { s.stream with queue := ds } }.put i (.opening d))
  | [] => if s.stream.producer.hasEnded then some (s.put i .ended) else none

def begin (s : State R) (i : Nat) (d : Datacenter) : State R :=
  match (Network.client d.host).run.run s.net with
  | (.ok session, n) =>
    let (due, n) := (Network.start session (.machines d.id)).run n
    { s with net := n }.put i (.waiting d session due)
  | (.error e, n) => { s with net := n }.put i (.after (.error e))

def finish (s : State R) (i : Nat) (d : Datacenter) (session : Session) : State R :=
  match (Network.finish session (.machines d.id)).run.run s.net with
  | (.ok ms, n) => { s with net := n }.put i (.after (s.query.answer d ms))
  | (.error e, n) => { s with net := n }.put i (.after (.error e))

def report (s : State R) (i : Nat) (r : Except Error VirtualMachine) : State R :=
  { s with results := s.results ++ [r] }.put i .ended

/-- A worker notices that it is cancelled where it would take a datacenter and where it waits. -/
def act (s : State R) (i : Nat) : Worker → Option (State R)
  | .idle => if s.cancelled then some (s.put i .ended) else s.take i
  | .opening d => some (if s.cancelled then s.put i .ended else s.begin i d)
  | .waiting d session _ => some (if s.cancelled then s.put i .ended else s.finish i d session)
  | .reporting r => some (s.report i r)
  | .ended => none

/-- Hear a report. When all workers have ended there will be no other. -/
def hearResult (s : State R) : Option (State R) :=
  match s.results with
  | .ok m :: rs => some { s with results := rs, found := s.found <|> some m, cancelled := true }
  | .error e :: rs => some { s.blame e with results := rs, cancelled := true }
  | [] =>
    if s.workers.all Worker.hasEnded then some { s with phase := .closing, cancelled := true }
    else none

/-- Hear the stream's failure. That it was cancelled is no failure. -/
def hearFault (s : State R) : Option (State R) :=
  match s.stream.fault with
  | some e =>
    let s := { s with stream := { s.stream with fault := none } }
    some (if e = .cancelled then s else { s.blame e with cancelled := true })
  | none => if s.stream.producer.hasEnded then some { s with listening := false } else none

def close (s : State R) : State R :=
  match s.listening, s.stream.fault with
  | true, some e => { if e = .cancelled then s else s.blame e with phase := .done }
  | _, _ => { s with phase := .done }

/-- The state after a move, if it can be made. -/
def step (s : State R) : Move → Option (State R)
  | .producer => s.produce
  | .worker i => s.workers[i]?.bind (s.act i)
  | .result => if s.phase = .gathering then s.hearResult else none
  | .fault => if s.phase = .gathering ∧ s.listening then s.hearFault else none
  | .close => if s.phase = .closing ∧ s.stream.producer.hasEnded then some s.close else none
  | .abandon =>
    if s.abandoned ∨ s.phase = .done then none
    else some { s with abandoned := true, cancelled := true }

def outcome (s : State R) : Except Error VirtualMachine :=
  match s.found, s.failed with
  | some m, _ => .ok m
  | none, some e => .error e
  | none, none => .error (if s.abandoned then .cancelled else s.query.missed)

end State

end StorageDriver.Search
