import StorageDriver.Proofs.Operations

namespace StorageDriver

namespace Plane

/-- The plane without its tasks, which move on as they are read, and without the marks that
enquiries leave. -/
def estate (p : Plane) : Plane :=
  { p with
    tasks := [], listed := [],
    calls := { setVm := p.calls.setVm, commands := p.calls.commands } }

variable (p : Plane)

theorem estate_connect (host : String) : (p.connect host).2.estate = p.estate := rfl

theorem estate_start (q : Request) : (p.start q).2.estate = p.estate := by
  cases q <;> rfl

theorem estate_finish {q : Request} (hq : q.IsEnquiry) : (p.finish q).2.estate = p.estate := by
  cases q with
  | task id =>
    show (p.readTask id).2.estate = p.estate
    unfold readTask
    dsimp only
    split <;> rfl
  | command c => cases hq
  | _ => rfl

end Plane

namespace Fleet

def estates (f : Fleet) (host : String) : Option Plane := (f.get? host).map Plane.estate

theorem estates_put (f : Fleet) (host : String) (p : Plane) (k : String) :
    estates (f.put host p) k = if host = k then some p.estate else f.estates k := by
  rw [estates, Table.get?_put]
  split <;> rfl

theorem estates_put_congr {f g : Fleet} {host : String} {p q : Plane} (h : f.estates = g.estates)
    (hp : p.estate = q.estate) : estates (f.put host p) = estates (g.put host q) := by
  funext k
  rw [estates_put, estates_put, h, hp]

theorem estates_put_of_eq {f : Fleet} {host : String} {p q : Plane} (hp : f.get? host = some p)
    (hq : q.estate = p.estate) : estates (f.put host q) = f.estates := by
  funext k
  rw [estates_put]
  by_cases hk : host = k
  · subst hk
    rw [if_pos rfl, estates, hp, Option.map_some, hq]
  · rw [if_neg hk]

theorem estates_of_get? {f : Fleet} {host : String} {p : Plane} (h : f.get? host = some p) :
    f.estates host = some p.estate :=
  congrArg (Option.map Plane.estate) h

theorem exists_of_estates {f g : Fleet} (h : g.estates = f.estates) {host : String} {p : Plane}
    (hp : f.get? host = some p) : ∃ q, g.get? host = some q ∧ q.estate = p.estate :=
  Option.map_eq_some_iff.1 ((congrFun h host).trans (estates_of_get? hp))

theorem machines?_of_estates {f g : Fleet} (h : g.estates = f.estates) :
    g.machines? = f.machines? := by
  funext host
  have hs := congrArg (Option.map Plane.machines) (congrFun h host)
  rw [estates, estates, Option.map_map, Option.map_map] at hs
  exact hs

def volumes? (f : Fleet) (host : String) : Option (List VolumeInfo) :=
  (f.get? host).map (·.volumes)

theorem volumes?_of_estates {f g : Fleet} (h : g.estates = f.estates) :
    g.volumes? = f.volumes? := by
  funext host
  have hs := congrArg (Option.map Plane.volumes) (congrFun h host)
  rw [estates, estates, Option.map_map, Option.map_map] at hs
  exact hs

theorem lasting_estates (f : Fleet) : Remote.Lasting fun g : Fleet => g.estates = f.estates where
  connect c g h := by
    rw [run_connect]
    cases hp : g.get? c.host with
    | none => exact h
    | some p => exact (estates_put_of_eq hp (p.estate_connect c.host)).trans h
  start s q g _ h := by
    rw [run_start]
    cases hp : g.get? s.host with
    | none => exact h
    | some p => exact (estates_put_of_eq hp (p.estate_start q)).trans h
  finish s q g hq h := by
    show estates ((actAt s.host fun p => p.finish q).run.run g).2 = f.estates
    rw [run_actAt]
    cases hp : g.get? s.host with
    | none => exact h
    | some p => exact (estates_put_of_eq hp (p.estate_finish hq)).trans h

end Fleet

namespace World

variable {α : Type} {env : Setting} {w w' : World Fleet}

/-- No plane owns anything else in `w'` than in `w`. -/
def Owns (w w' : World Fleet) : Prop := w'.net.planes.estates = w.net.planes.estates

theorem Owns.document (h : w.Owns w') : w'.document = w.document :=
  document_of_machines (Fleet.machines?_of_estates h)

end World

theorem Attempt.owns_of_all {α : Type} {env : Setting} {w w' : World Fleet} {p : Attempt α}
    {r : Except Error α} (hp : p.run.All Action.IsEnquiry) (h : p.Runs env w r w') : w.Owns w' :=
  (Fleet.lasting_estates w.net.planes).runs hp h rfl

theorem Attempt.Enquires.owns_of_runs {α : Type} {env : Setting} {w w' : World Fleet}
    {p : Attempt α} {r : Except Error α} (hp : p.Enquires) (h : p.Runs env w r w') : w.Owns w' :=
  owns_of_all hp.asks h

theorem Attempt.Enquires.owns {α : Type} {env : Setting} {w w' : World Fleet} {p : Attempt α}
    {r : Except Error α} (hp : p.Enquires) (h : p.execute env w = (r, w')) : w.Owns w' :=
  hp.owns_of_runs (runs_of_execute h)

end StorageDriver
