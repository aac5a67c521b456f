import StorageDriver.Proc
import StorageDriver.Search.Run

namespace StorageDriver

/-- `source` is where the cluster's UUIDs come from, if there is a cluster. -/
structure Setting where
  pool : Nat := 4
  source : Option (String → Except Error String) := none

/-- A node is not found where there is no cluster to ask. -/
def Setting.clusterUuid (s : Setting) (node : String) : Except Error String :=
  match s.source with
  | none => .error (.nodeNotFound node)
  | some uuid => uuid node

structure World (R : Type) where
  net : Network R
  nodes : Nodes := {}

namespace World

variable {R : Type}

def onNet {α : Type} (f : Network R → α × Network R) (w : World R) : α × World R :=
  let (a, n) := f w.net
  (a, { w with net := n })

def onNodes {α : Type} (f : Nodes → α × Nodes) (w : World R) : α × World R :=
  let (a, n) := f w.nodes
  (a, { w with nodes := n })

variable [Remote R]

def perform (s : Setting) : (a : Action) → World R → a.Answer × World R
  | .center host => onNet ((·.config) <$> Network.handle host).run.run
  | .connect host => onNet (Network.connect host).run.run
  | .client host => onNet (Network.client host).run.run
  | .ask session q => onNet (Network.ask session q).run.run
  | .sleep ms => onNet fun n => ((), { n with clock := n.clock + ms })
  | .search q => onNet (Network.search s.pool .endless q).run.run
  | .clusterUuid node => fun w => (s.clusterUuid node, w)
  | .nodes op => onNodes (Nodes.apply op)

end World

def Proc.run {R α : Type} [Remote R] (s : Setting) : Proc α → World R → α × World R
  | .done a, w => (a, w)
  | .act a next, w =>
    let (x, w) := w.perform s a
    (next x).run s w

theorem Proc.run_bind {R α β : Type} [Remote R] (s : Setting) (p : Proc α) (f : α → Proc β)
    (w : World R) : (p.bind f).run s w = (f (p.run s w).1).run s (p.run s w).2 := by
  induction p generalizing w with
  | done => rfl
  | act a next ih => exact ih _ _

namespace Attempt

variable {R α β : Type} [Remote R]

def execute (s : Setting) (p : Attempt α) (w : World R) : Except Error α × World R :=
  Proc.run s (ExceptT.run p) w

theorem execute_bind (s : Setting) (p : Attempt α) (f : α → Attempt β) (w : World R) :
    (p >>= f).execute s w =
      match p.execute s w with
      | (.ok a, w) => (f a).execute s w
      | (.error e, w) => (.error e, w) := by
  show Proc.run s (Proc.bind (ExceptT.run p) _) w = _
  rw [Proc.run_bind]
  simp only [execute]
  cases h : Proc.run s (ExceptT.run p) w with
  | mk r w => cases r <;> rfl

end Attempt

end StorageDriver
