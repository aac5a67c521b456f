import StorageDriver.Proofs.Runs

namespace StorageDriver

inductive Contact
  | connected (c : Center.Config) (r : Except Error Session)
  | asked (s : Session) (q : Request) (r : Except Error q.Reply)

namespace Contact

def host? : Contact → Option String
  | connected c _ => some c.host
  | asked .. => none

def request? : Contact → Option Request
  | connected .. => none
  | asked _ q _ => some q

def document? : Contact → Option VmInfo
  | asked _ (.machine _) (.ok doc) => some doc
  | _ => none

def failure? : Contact → Option Error
  | connected _ (.error e) | asked _ _ (.error e) => some e
  | _ => none

end Contact

structure Overheard (R : Type) where
  planes : R
  heard : List Contact := []

section

variable {R : Type} [Remote R]

instance : Remote (Overheard R) where
  connect c o :=
    let (r, planes) := (Remote.connect c).run.run o.planes
    (r, { planes := planes, heard := o.heard ++ [.connected c r] })
  start s q o :=
    let (delay, planes) := (Remote.start s q).run o.planes
    (delay, { o with planes := planes })
  finish s q o :=
    let (r, planes) := (Remote.finish s q).run.run o.planes
    (r, { planes := planes, heard := o.heard ++ [.asked s q r] })

theorem Overheard.run_connect (c : Center.Config) (o : Overheard R) :
    (Remote.connect c).run.run o = (((Remote.connect c).run.run o.planes).1, {
      planes := ((Remote.connect c).run.run o.planes).2
      heard := o.heard ++ [.connected c ((Remote.connect c).run.run o.planes).1] }) :=
  rfl

theorem Network.dialed_overheard (n : Network (Overheard R)) (host : String) (hd : Center.Handle) :
    ∃ r m, n.dialed host hd = (r, m) ∧
      m.planes.heard = n.planes.heard ++ [.connected hd.config r] ∧
      m.centers = match r with
        | .ok s => n.centers.put host { hd with session := some s }
        | .error _ => n.centers := by
  unfold Network.dialed
  rw [Overheard.run_connect]
  cases ((Remote.connect hd.config).run.run n.planes.planes).1 with
  | ok s => exact ⟨_, _, rfl, rfl, rfl⟩
  | error e => exact ⟨_, _, rfl, rfl, rfl⟩

theorem Network.ask_overheard (n : Network (Overheard R)) (s : Session) (q : Request) :
    ∃ r m, (ask s q).run.run n = (r, m) ∧ m.planes.heard = n.planes.heard ++ [.asked s q r] ∧
      m.centers = n.centers :=
  ⟨_, _, rfl, rfl, rfl⟩

def Network.plain (n : Network (Overheard R)) : Network R :=
  { centers := n.centers, planes := n.planes.planes, clock := n.clock }

theorem Network.plain_dialed (n : Network (Overheard R)) (host : String) (hd : Center.Handle) :
    (n.dialed host hd).map id plain = n.plain.dialed host hd := by
  have hp : n.plain.planes = n.planes.planes := rfl
  unfold Network.dialed
  rw [Overheard.run_connect, hp]
  cases (Remote.connect hd.config).run.run n.planes.planes with
  | mk r planes => cases r <;> rfl

theorem Network.plain_connect (n : Network (Overheard R)) (host : String) :
    ((Network.connect host).run.run n).map id plain = (Network.connect host).run.run n.plain := by
  have hc : n.plain.centers = n.centers := rfl
  rw [run_connect, run_connect, hc]
  cases n.centers.get? host with
  | none => rfl
  | some hd =>
    have h := n.plain_dialed host hd
    simp only [← h]
    rfl

theorem Network.plain_client (n : Network (Overheard R)) (host : String) :
    ((client host).run.run n).map id plain = (client host).run.run n.plain := by
  have hc : n.plain.centers = n.centers := rfl
  rw [run_client, run_client, hc]
  cases n.centers.get? host with
  | none => rfl
  | some hd =>
    cases hs : hd.session with
    | none => simp only [hs]; exact n.plain_dialed host hd
    | some s => simp only [hs]; rfl

def World.plain (w : World (Overheard R)) : World R := { net := w.net.plain, nodes := w.nodes }

theorem World.plain_perform {a : Action} (ha : a.IsDirect) (env : Setting)
    (w : World (Overheard R)) :
    (w.perform env a).map id plain = w.plain.perform env a := by
  have onNet {α : Type} {f : Network (Overheard R) → α × Network (Overheard R)}
      {g : Network R → α × Network R} (h : (f w.net).map id Network.plain = g w.net.plain) :
      (w.onNet f).map id plain = w.plain.onNet g := by
    show _ = ((g w.net.plain).1, { w.plain with net := (g w.net.plain).2 })
    rw [← h]
    rfl
  cases a with
  | search q => cases ha
  | center host =>
    show (w.onNet ((·.config) <$> Network.handle host).run.run).map id plain =
      w.plain.onNet ((·.config) <$> Network.handle host).run.run
    have hc : w.net.plain.centers = w.net.centers := rfl
    refine onNet ?_
    rw [Network.run_config, Network.run_config, hc]
    cases w.net.centers.get? host <;> rfl
  | connect host => exact onNet (w.net.plain_connect host)
  | client host => exact onNet (w.net.plain_client host)
  | ask s q => rfl
  | sleep ms => rfl
  | clusterUuid node => rfl
  | nodes op => rfl

theorem Proc.plain_run {α : Type} {p : Proc α} (hp : p.All Action.IsDirect) (env : Setting)
    (w : World (Overheard R)) : (p.run env w).map id World.plain = p.run env w.plain := by
  induction p generalizing w with
  | done a => rfl
  | act a next ih =>
    show ((next (w.perform env a).1).run env (w.perform env a).2).map id World.plain =
      (next (w.plain.perform env a).1).run env (w.plain.perform env a).2
    rw [ih _ (hp.2 _), ← World.plain_perform hp.1]
    rfl

end

end StorageDriver
