import StorageDriver.Proofs.Connections
import StorageDriver.Proofs.Procedures
import StorageDriver.Proofs.SearchReports
import StorageDriver.World

namespace StorageDriver

def Request.IsEnquiry : Request → Prop
  | command _ => False
  | _ => True

/-- It gives no command. -/
def Action.IsEnquiry : Action → Prop
  | ask _ q => q.IsEnquiry
  | _ => True

/-- Neither connections nor enquiries change that `P` holds. -/
structure Remote.Lasting {R : Type} [Remote R] (P : R → Prop) : Prop where
  connect : ∀ c r, P r → P ((Remote.connect c).run.run r).2
  start : ∀ s (q : Request) r, q.IsEnquiry → P r → P ((Remote.start s q).run r).2
  finish : ∀ s (q : Request) r, q.IsEnquiry → P r → P ((Remote.finish s q).run.run r).2

namespace Remote.Lasting

variable {R : Type} [Remote R] {P : R → Prop} (h : Remote.Lasting P) {n : Network R}
include h

theorem dialed (host : String) (hd : Center.Handle) (hn : P n.planes) :
    P (n.dialed host hd).2.planes := by
  have hc := h.connect hd.config n.planes hn
  unfold Network.dialed
  cases hr : (Remote.connect hd.config).run.run n.planes with
  | mk r planes =>
    rw [hr] at hc
    cases r <;> exact hc

theorem dial (host : String) (hn : P n.planes) :
    P ((Network.connect host).run.run n).2.planes := by
  rw [Network.run_connect]
  cases n.centers.get? host with
  | none => exact hn
  | some hd => exact h.dialed host hd hn

theorem client (host : String) (hn : P n.planes) :
    P ((Network.client host).run.run n).2.planes := by
  rw [Network.run_client]
  cases n.centers.get? host with
  | none => exact hn
  | some hd =>
    cases hs : hd.session with
    | none => simpa only [hs] using h.dialed host hd hn
    | some s => simpa only [hs] using hn

theorem ask (s : Session) {q : Request} (hq : q.IsEnquiry) (hn : P n.planes) :
    P ((Network.ask s q).run.run n).2.planes :=
  h.finish s q _ hq (h.start s q _ hq hn)

theorem datacenters (c : Center.Config) (hn : P n.planes) :
    P ((Network.datacenters c).run.run n).2.planes := by
  have hc := h.client c.host hn
  rw [Network.run_datacenters]
  cases hr : (Network.client c.host).run.run n with
  | mk r m =>
    rw [hr] at hc
    cases r with
    | ok s => exact h.ask s (q := .datacenters) trivial hc
    | error e => exact hc

theorem change {s t : Search.State R} {m : Search.Move} {es : List Search.Event}
    (hs : P s.net.planes) (hc : Search.Change s m es t) : P t.net.planes := by
  have after {α : Type} {x : α × Network R} {a : α} {n : Network R} (hx : x = (a, n))
      (hp : P x.2.planes) : P n.planes := by
    rwa [hx] at hp
  cases hc with
  | connect _ _ hn | refuse _ _ hn => exact after hn (h.dial _ hs)
  | list _ _ hn | unlist _ _ hn => exact after hn (h.datacenters _ hs)
  | «open» _ _ hn ht =>
    exact after ht (h.start _ (.machines _) _ trivial (after hn (h.client _ hs)))
  | unopen _ _ hn => exact after hn (h.client _ hs)
  | look _ _ hn | miss _ _ hn => exact after hn (h.finish _ (.machines _) _ trivial hs)
  | _ => exact hs

/-- A search, in whatever order its parties move. -/
theorem follow {s t : Search.State R} {ms : List (Nat × Search.Move)} {es : List Search.Event}
    (hs : P s.net.planes) (hf : s.follow ms = some (t, es)) : P t.net.planes :=
  Search.follow_induction (P := fun _ u => P u.net.planes) hs (fun _ _ _ hu => hu)
    (fun _ _ _ _ _ hu hc => h.change hu hc) hf

theorem search (pool : Nat) (patience : Patience) (q : Query) (hn : P n.planes) :
    P ((Network.search pool patience q).run.run n).2.planes := by
  by_cases hq : q.isEmpty = true
  · rw [Search.run_search_of_isEmpty n pool patience hq]
    exact hn
  · obtain ⟨ms, t, es, hf, hx⟩ :=
      Search.exists_follow_search n pool patience (q := q) (by simpa using hq)
    rw [hx]
    exact h.follow (s := Search.start q pool _ n) hn hf

theorem perform (s : Setting) {a : Action} (ha : a.IsEnquiry) {w : World R}
    (hw : P w.net.planes) : P (w.perform s a).2.net.planes := by
  cases a with
  | center host =>
    show P (((·.config) <$> Network.handle host).run.run w.net).2.planes
    rw [Network.run_config]
    cases w.net.centers.get? host <;> exact hw
  | connect host => exact h.dial host hw
  | client host => exact h.client host hw
  | ask session q => exact h.ask session ha hw
  | search q => exact h.search s.pool .endless q hw
  | sleep ms | clusterUuid node | nodes op => exact hw

end Remote.Lasting

end StorageDriver
