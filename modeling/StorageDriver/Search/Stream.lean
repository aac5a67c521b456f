import StorageDriver.Network

namespace StorageDriver

inductive Producer
  | visiting (centers : List Center.Config)
  | listing (center : Center.Config) (more : List Center.Config)
  | publishing (found : List Datacenter) (more : List Center.Config)
  | ended
deriving DecidableEq, Repr

namespace Producer

def hasEnded : Producer → Bool
  | ended => true
  | _ => false

def left : Producer → Nat
  | visiting cs => cs.length
  | listing _ cs => cs.length + 1
  | publishing _ cs => cs.length
  | ended => 0

def work : Producer → Nat
  | visiting _ => 3
  | listing _ _ => 2
  | publishing ds _ => 4 + 5 * ds.length
  | ended => 0

end Producer

/-- `fault` holds the failure that ended the producer until it is heard. `heard` tells whether
anyone still takes from the queue. -/
structure Stream where
  producer : Producer
  queue : List Datacenter := []
  room : Nat
  fault : Option Error := none
  heard : Bool := true
deriving DecidableEq, Repr

namespace Stream

variable {R : Type}

def ofCenters (cs : List Center.Config) (room : Nat) : Stream where
  producer := .visiting cs
  room := max room 1

def fail (s : Stream) (e : Error) : Stream := { s with producer := .ended, fault := some e }

def work (s : Stream) : Nat :=
  s.producer.work + 4 * s.queue.length + s.fault.isSome.toNat

/-- One step of the producer, if it can take one. It waits where the queue is full. -/
def step [Remote R] (cancelled : Bool) (s : Stream) (n : Network R) : Option (Stream × Network R) :=
  match s.producer with
  | .visiting [] => some ({ s with producer := .ended }, n)
  | .visiting (c :: cs) =>
    if cancelled then some (s.fail .cancelled, n)
    else match (Network.connect c.host).run.run n with
      | (.ok _, n) => some ({ s with producer := .listing c cs }, n)
      | (.error e, n) => some (s.fail e, n)
  | .listing c cs =>
    if cancelled then some (s.fail .cancelled, n)
    else match (Network.datacenters c).run.run n with
      | (.ok ds, n) => some ({ s with producer := .publishing ds cs }, n)
      | (.error e, n) => some (s.fail e, n)
  | .publishing [] cs => some ({ s with producer := .visiting cs }, n)
  | .publishing (d :: ds) cs =>
    if cancelled then some (s.fail .cancelled, n)
    else if !s.heard then some ({ s with producer := .ended }, n)
    else if s.queue.length < s.room then
      some ({ s with producer := .publishing ds cs, queue := s.queue ++ [d] }, n)
    else none
  | .ended => none

def Closer (s t : Stream) : Prop :=
  s.producer.left < t.producer.left ∨ s.producer.left = t.producer.left ∧ s.work < t.work

theorem closer_of_step [Remote R] {cancelled : Bool} {s t : Stream} {n m : Network R}
    (h : s.step cancelled n = some (t, m)) : t.Closer s := by
  unfold step at h
  repeat' split at h
  all_goals simp only [Option.some.injEq, Prod.mk.injEq, reduceCtorEq] at h
  all_goals
    obtain ⟨rfl, -⟩ := h
    simp_all [Closer, fail, work, Producer.left, Producer.work]
    try omega

end Stream

end StorageDriver
