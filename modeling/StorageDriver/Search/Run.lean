import StorageDriver.Search.Progress

namespace StorageDriver

inductive Patience
  | endless
  | lasting (ms : Nat)
  | spent
deriving DecidableEq, Repr

namespace Search.State

variable {R : Type}

/-- The moves that need no time. A request may be finished when it is due. -/
def ready (s : State R) : List Move :=
  let workers := s.workers.zipIdx.filter fun (w, _) => w.due?.all (· ≤ s.net.clock)
  [.result, .fault, .producer] ++ workers.map (fun (_, i) => .worker i) ++ [.close]

/-- The moves that need time, with the time they are made at. -/
def timed (s : State R) (giveUp : Option Nat) : List (Nat × Move) :=
  giveUp.toList.map (·, .abandon) ++
    s.workers.zipIdx.filterMap fun (w, i) => w.due?.map (·, .worker i)

def earliest (ms : List (Nat × Move)) : Option (Nat × Move) :=
  (ms.mergeSort fun a b => a.1 ≤ b.1).head?

variable [Remote R]

def next (giveUp : Option Nat) (s : State R) : Option (State R) :=
  match s.ready.findSome? s.step with
  | some t => some t
  | none =>
    (earliest (s.timed (if s.abandoned then none else giveUp))).bind fun (due, m) =>
      { s with net := { s.net with clock := max s.net.clock due } }.step m

theorem closer_of_next {giveUp : Option Nat} {s t : State R} (h : s.next giveUp = some t) :
    t.Closer s := by
  unfold next at h
  split at h
  · rename_i u hu
    obtain rfl := Option.some.inj h
    obtain ⟨m, -, hm⟩ := List.exists_of_findSome?_eq_some hu
    exact closer_of_step hm
  · obtain ⟨⟨due, m⟩, -, hm⟩ := Option.bind_eq_some_iff.1 h
    have hc := closer_of_step hm
    exact hc

def run (giveUp : Option Nat) (s : State R) : State R :=
  match _h : s.next giveUp with
  | none => s
  | some t => run giveUp t
termination_by (s.left, s.work)
decreasing_by
  rw [Prod.lex_def]
  exact closer_of_next _h

end Search.State

namespace Search

variable {R : Type}

def start (q : Query) (pool : Nat) (spent : Bool) (n : Network R) : State R where
  query := q
  net := n
  stream := .ofCenters (n.centers.map (·.2.config)) (pool * 10)
  workers := .replicate pool .idle
  abandoned := spent
  cancelled := spent

end Search

def Network.search {R : Type} [Remote R] (pool : Nat) (patience : Patience) (q : Query) :
    Call (Network R) VirtualMachine := fun n =>
  if q.isEmpty then (.error Query.unfit, n)
  else
    let giveUp := match patience with
      | .lasting ms => some (n.clock + ms)
      | _ => none
    let s := (Search.start q pool (patience = .spent) n).run giveUp
    (s.outcome, s.net)

end StorageDriver
