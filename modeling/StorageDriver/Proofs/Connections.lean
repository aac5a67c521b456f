import StorageDriver.Network

namespace StorageDriver

/-- Neither that something was sought in vain nor that someone gave up. -/
def Error.IsPlain (e : Error) : Prop := e.isMiss = false ∧ e ≠ .cancelled

def Error.isRemote : Error → Bool
  | notRegistered _ | connection .. | rest .. => true
  | _ => false

theorem Error.isPlain_of_isRemote {e : Error} (h : e.isRemote = true) : e.IsPlain := by
  cases e with
  | notRegistered | connection | rest => exact ⟨rfl, nofun⟩
  | _ => cases h

theorem Call.run_bind {σ α β : Type} (x : Call σ α) (f : α → Call σ β) (n : σ) :
    (x >>= f).run.run n = match x.run.run n with
      | (.ok a, n) => (f a).run.run n
      | (.error e, n) => (.error e, n) := by
  rw [ExceptT.run_bind, StateT.run_bind]
  show (match x.run.run n with | (a, n) => _) = _
  cases x.run.run n with
  | mk r n => cases r <;> rfl

/-- Both answer the same, and are left as `E` says. -/
structure Agree {σ α : Type} (E : σ → σ → Prop) (x y : α × σ) : Prop where
  answer : x.1 = y.1
  left : E x.2 y.2

theorem Agree.parts {σ α : Type} {E : σ → σ → Prop} {x y : α × σ} (h : Agree E x y) :
    ∃ a s t, x = (a, s) ∧ y = (a, t) ∧ E s t :=
  ⟨x.1, x.2, y.2, rfl, Prod.ext h.answer.symm rfl, h.left⟩

namespace Network

variable {R : Type}

theorem run_handle (host : String) (n : Network R) :
    (handle host).run.run n = match n.centers.get? host with
      | some h => (.ok h, n)
      | none => (.error (.notRegistered host), n) := by
  show (match n.centers.get? host with
    | some h => (pure h : Call (Network R) Center.Handle)
    | none => throw (Error.notRegistered host)) n = _
  cases n.centers.get? host <;> rfl

theorem run_config (host : String) (n : Network R) :
    ((·.config) <$> handle host).run.run n = match n.centers.get? host with
      | some h => (.ok h.config, n)
      | none => (.error (.notRegistered host), n) := by
  rw [← bind_pure_comp, Call.run_bind, run_handle]
  cases n.centers.get? host <;> rfl

def Proper (n : Network R) : Prop :=
  ∀ host h, n.centers.get? host = some h →
    h.config.host = host ∧ ∀ s, h.session = some s → s.host = host

theorem proper_of_planes (planes : R) : Proper { planes := planes } := nofun

theorem Proper.register {n : Network R} (h : n.Proper) (c : Center.Config) :
    (n.register c).Proper := by
  unfold Network.register
  split
  · exact h
  · intro host hd hh
    rw [Table.get?_put] at hh
    split at hh
    · obtain rfl := Option.some.inj hh
      exact ⟨‹_›, nofun⟩
    · exact h host hd hh

variable [Remote R]

def dialed (n : Network R) (host : String) (h : Center.Handle) :
    Except Error Session × Network R :=
  match (Remote.connect h.config).run.run n.planes with
  | (.ok s, planes) =>
    (.ok s, { n with planes := planes, centers := n.centers.put host { h with session := some s } })
  | (.error e, planes) => (.error e, { n with planes := planes })

theorem run_dial (host : String) (h : Center.Handle) (n : Network R) :
    (dial host h).run.run n = n.dialed host h := by
  unfold dial dialed
  rw [Call.run_bind]
  cases hc : (Remote.connect h.config).run.run n.planes with
  | mk r planes =>
    simp only [ExceptT.run, StateT.run] at hc ⊢
    rw [hc]
    cases r <;> rfl

theorem run_connect (host : String) (n : Network R) :
    (connect host).run.run n = match n.centers.get? host with
      | some h => ((n.dialed host h).1.map fun _ => (), (n.dialed host h).2)
      | none => (.error (.notRegistered host), n) := by
  unfold connect
  rw [Call.run_bind, run_handle]
  cases n.centers.get? host with
  | none => rfl
  | some h =>
    show (do let _ ← dial host h).run.run n = _
    rw [Call.run_bind, run_dial]
    show _ = ((n.dialed host h).1.map fun _ => (), (n.dialed host h).2)
    cases n.dialed host h with
    | mk r m => cases r <;> rfl

theorem run_client (host : String) (n : Network R) :
    (client host).run.run n = match n.centers.get? host with
      | some h => match h.session with
        | some s => (.ok s, n)
        | none => n.dialed host h
      | none => (.error (.notRegistered host), n) := by
  unfold client
  rw [Call.run_bind, run_handle]
  cases n.centers.get? host with
  | none => rfl
  | some h =>
    cases hs : h.session with
    | some s => simp only [hs]; rfl
    | none => simp only [hs]; exact run_dial host h n

def select (c : Center.Config) (all : List DatacenterInfo) : List Datacenter :=
  (all.filter fun d => c.allows d.id d.name).map (Datacenter.ofInfo c.host)

theorem run_datacenters (c : Center.Config) (n : Network R) :
    (datacenters c).run.run n = match (client c.host).run.run n with
      | (.ok s, n) => (((ask s .datacenters).run.run n).1.map (select c),
          ((ask s .datacenters).run.run n).2)
      | (.error e, n) => (.error e, n) := by
  unfold datacenters
  rw [Call.run_bind]
  cases (client c.host).run.run n with
  | mk r n =>
    cases r with
    | error e => rfl
    | ok s =>
      show (do return select c (← ask s .datacenters)).run.run n = _
      rw [Call.run_bind]
      show _ = (((ask s .datacenters).run.run n).1.map (select c),
        ((ask s .datacenters).run.run n).2)
      cases (ask s .datacenters).run.run n with
      | mk r m => cases r <;> rfl

theorem exists_of_datacenters {c : Center.Config} {n n' : Network R} {ds : List Datacenter}
    (h : (datacenters c).run.run n = (.ok ds, n')) : ∃ all, ds = select c all := by
  rw [run_datacenters] at h
  split at h
  · rename_i s n₁ _
    obtain ⟨hd, -⟩ := Prod.mk.inj h
    cases ha : ((ask s .datacenters).run.run n₁).1 with
    | error e => rw [ha] at hd; cases hd
    | ok all => rw [ha] at hd; exact ⟨all, (Except.ok.inj hd).symm⟩
  · cases (Prod.mk.inj h).1

end Network

/-- What a remote says that fails is as `P` says. -/
structure Remote.Fails (R : Type) [Remote R] (P : Error → Prop) : Prop where
  connect : ∀ (c : Center.Config) (r : R) (e : Error),
    ((Remote.connect c).run.run r).1 = .error e → P e
  finish : ∀ (s : Session) (q : Request) (r : R) (e : Error),
    ((Remote.finish s q).run.run r).1 = .error e → P e

theorem Remote.Fails.imp {R : Type} [Remote R] {P Q : Error → Prop} (h : Remote.Fails R P)
    (hq : ∀ e, P e → Q e) : Remote.Fails R Q where
  connect c r e he := hq e (h.connect c r e he)
  finish s q r e he := hq e (h.finish s q r e he)

namespace Remote.Fails

open Network

variable {R : Type} [Remote R] {P : Error → Prop} (h : Remote.Fails R P) {n : Network R} {e : Error}
include h

theorem of_dialed {host : String} {hd : Center.Handle} (he : (n.dialed host hd).1 = .error e) :
    P e := by
  unfold dialed at he
  split at he
  · cases he
  · rename_i e' planes hc
    obtain rfl := Except.error.inj he
    exact h.connect hd.config n.planes _ (congrArg Prod.fst hc)

theorem of_finish {s : Session} {q : Request}
    (he : ((Network.finish s q).run.run n).1 = .error e) : P e :=
  h.finish s q n.planes e he

theorem of_ask {s : Session} {q : Request} (he : ((Network.ask s q).run.run n).1 = .error e) :
    P e :=
  h.finish s q ((Remote.start s q).run n.planes).2 e he

variable (unknown : ∀ host, P (.notRegistered host))
include unknown

theorem of_connect {host : String} (he : ((Network.connect host).run.run n).1 = .error e) :
    P e := by
  rw [run_connect] at he
  split at he
  · rename_i hd _
    cases hr : (n.dialed host hd).1 with
    | ok s => rw [hr] at he; cases he
    | error e' => rw [hr] at he; exact Except.error.inj he ▸ h.of_dialed hr
  · exact Except.error.inj he ▸ unknown host

theorem of_client {host : String} (he : ((client host).run.run n).1 = .error e) : P e := by
  rw [run_client] at he
  split at he
  · split at he
    · cases he
    · exact h.of_dialed he
  · exact Except.error.inj he ▸ unknown host

theorem of_datacenters {c : Center.Config} (he : ((datacenters c).run.run n).1 = .error e) :
    P e := by
  rw [run_datacenters] at he
  split at he
  · rename_i s m _
    cases hr : ((ask s .datacenters).run.run m).1 with
    | ok all => rw [hr] at he; cases he
    | error e' => rw [hr] at he; exact Except.error.inj he ▸ h.of_ask hr
  · rename_i e' m hc
    obtain rfl := Except.error.inj he
    exact h.of_client unknown (congrArg Prod.fst hc)

end Remote.Fails

/-- A remote that fails says neither that something was sought in vain nor that someone gave up. -/
structure Remote.IsPlain (R : Type) [Remote R] : Prop where
  connect : ∀ (c : Center.Config) (r : R) (e : Error),
    ((Remote.connect c).run.run r).1 = .error e → e.IsPlain
  finish : ∀ (s : Session) (q : Request) (r : R) (e : Error),
    ((Remote.finish s q).run.run r).1 = .error e → e.IsPlain

theorem Remote.IsPlain.fails {R : Type} [Remote R] (h : Remote.IsPlain R) :
    Remote.Fails R Error.IsPlain :=
  ⟨h.connect, h.finish⟩

end StorageDriver
