import StorageDriver.Proofs.Tables
import StorageDriver.Proofs.TwinSearches

namespace StorageDriver

namespace Center

def Config.veiled (c : Config) : Config := { c with password := "" }

def Handle.veiled (h : Handle) : Handle := { h with config := h.config.veiled }

theorem Config.exists_of_veiled {c c' : Config} (h : c.veiled = c'.veiled) :
    ∃ password, c' = { c with password := password } := by
  cases c
  cases c'
  cases h
  exact ⟨_, rfl⟩

theorem Config.shown_of_veiled {c c' : Config} (h : c.veiled = c'.veiled) :
    c.host = c'.host ∧ c.describe = c'.describe ∧ c.details = c'.details ∧
      c.handleDetails = c'.handleDetails ∧ c.allows = c'.allows := by
  obtain ⟨password, rfl⟩ := Config.exists_of_veiled h
  exact ⟨rfl, rfl, rfl, rfl, rfl⟩

end Center

/-- Passwords are no help in telling apart what `E` has alike. -/
structure Remote.Discreet {R : Type} [Remote R] (E : R → R → Prop) : Prop where
  connect : ∀ {c c' : Center.Config} {r r' : R}, c.veiled = c'.veiled → E r r' →
    Agree E ((Remote.connect c).run.run r) ((Remote.connect c').run.run r')
  start : ∀ (s : Session) (q : Request) {r r' : R}, E r r' →
    Agree E ((Remote.start s q).run r) ((Remote.start s q).run r')
  finish : ∀ (s : Session) (q : Request) {r r' : R}, E r r' →
    Agree E ((Remote.finish s q).run.run r) ((Remote.finish s q).run.run r')

namespace Network

variable {R : Type}

def registry (n : Network R) : Table Center.Handle := n.centers.map fun p => (p.1, p.2.veiled)

structure Alike (E : R → R → Prop) (n n' : Network R) : Prop where
  registry : n.registry = n'.registry
  clock : n.clock = n'.clock
  planes : E n.planes n'.planes

variable {E : R → R → Prop} {n n' : Network R}

namespace Alike

variable (h : Alike E n n')
include h

theorem get? (host : String) :
    (n.centers.get? host).map Center.Handle.veiled =
      (n'.centers.get? host).map Center.Handle.veiled := by
  rw [← Table.get?_map, ← Table.get?_map]
  exact congrArg (Table.get? · host) h.registry

theorem known (host : String) :
    n.centers.get? host = none ∧ n'.centers.get? host = none ∨
      ∃ hd hd', n.centers.get? host = some hd ∧ n'.centers.get? host = some hd' ∧
        hd.veiled = hd'.veiled := by
  have known := h.get? host
  cases hn : n.centers.get? host with
  | none =>
    rw [hn] at known
    exact .inl ⟨rfl, Option.map_eq_none_iff.1 known.symm⟩
  | some hd =>
    rw [hn] at known
    obtain ⟨hd', hn', hh⟩ := Option.map_eq_some_iff.1 known.symm
    exact .inr ⟨hd, hd', rfl, hn', hh.symm⟩

theorem configs :
    (n.centers.map (·.2.config)).map Center.Config.veiled =
      (n'.centers.map (·.2.config)).map Center.Config.veiled := by
  have configs (n : Network R) :
      (n.centers.map (·.2.config)).map Center.Config.veiled = n.registry.map (·.2.config) := by
    unfold Network.registry
    rw [List.map_map, List.map_map]
    rfl
  rw [configs, configs, h.registry]

theorem put (host : String) {hd hd' : Center.Handle} (hh : hd.veiled = hd'.veiled) :
    Alike E { n with centers := n.centers.put host hd }
      { n' with centers := n'.centers.put host hd' } where
  registry := by
    show (n.centers.put host hd).map _ = (n'.centers.put host hd').map _
    rw [Table.map_put, Table.map_put, hh]
    exact congrArg (Table.put · host hd'.veiled) h.registry
  clock := h.clock
  planes := h.planes

theorem beside {r r' : R} (hr : E r r') : Alike E { n with planes := r } { n' with planes := r' } :=
  ⟨h.registry, h.clock, hr⟩

theorem wait (time : Nat) : Alike E { n with clock := time } { n' with clock := time } :=
  ⟨h.registry, rfl, h.planes⟩

theorem has (host : String) : n.centers.has host = n'.centers.has host := by
  rw [Table.has_eq_isSome, Table.has_eq_isSome, ← Option.isSome_map, h.get?, Option.isSome_map]

theorem register {c c' : Center.Config} (hc : c.veiled = c'.veiled) :
    Alike E (n.register c) (n'.register c') := by
  obtain ⟨host, -⟩ := Center.Config.shown_of_veiled hc
  have both : (Center.Handle.mk c none).veiled = (Center.Handle.mk c' none).veiled :=
    congrArg (Center.Handle.mk · none) hc
  unfold Network.register
  rw [host, h.has]
  split
  · exact h
  · exact h.put c'.host both

theorem unregister (host : String) :
    Agree (Alike E) ((Network.unregister host).run.run n)
      ((Network.unregister host).run.run n') := by
  have erased : Alike E { n with centers := n.centers.erase host }
      { n' with centers := n'.centers.erase host } := by
    refine ⟨?_, h.clock, h.planes⟩
    show (n.centers.erase host).map _ = (n'.centers.erase host).map _
    rw [Table.map_erase, Table.map_erase]
    exact congrArg (Table.erase · host) h.registry
  unfold Network.unregister
  rw [Call.run_bind, Call.run_bind, run_handle, run_handle]
  obtain ⟨hn, hn'⟩ | ⟨hd, hd', hn, hn', -⟩ := h.known host
  · rw [hn, hn']
    exact ⟨rfl, h⟩
  · rw [hn, hn']
    exact ⟨rfl, erased⟩

end Alike

variable [Remote R] (hE : Remote.Discreet E) (h : Alike E n n')
include hE h

namespace Alike

theorem dialed (host : String) {hd hd' : Center.Handle} (hh : hd.veiled = hd'.veiled) :
    Agree (Alike E) (n.dialed host hd) (n'.dialed host hd') := by
  have config : hd.config.veiled = hd'.config.veiled := congrArg Center.Handle.config hh
  obtain ⟨r, p, p', hp, hp', planes⟩ := (hE.connect config h.planes).parts
  unfold Network.dialed
  rw [hp, hp']
  cases r with
  | error e => exact ⟨rfl, h.beside planes⟩
  | ok s => exact ⟨rfl, (h.beside planes).put host (congrArg (Center.Handle.mk · (some s)) config)⟩

theorem connect (host : String) :
    Agree (Alike E) ((Network.connect host).run.run n) ((Network.connect host).run.run n') := by
  rw [run_connect, run_connect]
  obtain ⟨hn, hn'⟩ | ⟨hd, hd', hn, hn', hh⟩ := h.known host
  · rw [hn, hn']
    exact ⟨rfl, h⟩
  · obtain ⟨answer, left⟩ := h.dialed hE host hh
    rw [hn, hn']
    exact ⟨congrArg (Except.map fun _ => ()) answer, left⟩

theorem client (host : String) :
    Agree (Alike E) ((Network.client host).run.run n) ((Network.client host).run.run n') := by
  rw [run_client, run_client]
  obtain ⟨hn, hn'⟩ | ⟨hd, hd', hn, hn', hh⟩ := h.known host
  · rw [hn, hn']
    exact ⟨rfl, h⟩
  · have dialed := h.dialed hE host hh
    have session : hd.veiled.session = hd'.veiled.session := congrArg _ hh
    change hd.session = hd'.session at session
    rw [hn, hn']
    dsimp only
    rw [session]
    cases hd'.session with
    | none => exact dialed
    | some s => exact ⟨rfl, h⟩

theorem start (s : Session) (q : Request) :
    Agree (Alike E) ((Network.start s q).run n) ((Network.start s q).run n') := by
  obtain ⟨answer, left⟩ := hE.start s q h.planes
  exact ⟨(congrArg (n.clock + ·) answer).trans (congrArg (· + _) h.clock), h.beside left⟩

theorem finish (s : Session) (q : Request) :
    Agree (Alike E) ((Network.finish s q).run.run n) ((Network.finish s q).run.run n') := by
  obtain ⟨answer, left⟩ := hE.finish s q h.planes
  exact ⟨answer, h.beside left⟩

theorem ask (s : Session) (q : Request) :
    Agree (Alike E) ((Network.ask s q).run.run n) ((Network.ask s q).run.run n') := by
  obtain ⟨due, m, m', hm, hm', begun⟩ := (h.start hE s q).parts
  have waited : Alike E { m with clock := max m.clock due } { m' with clock := max m'.clock due } :=
    begun.clock ▸ begun.wait _
  have finished := waited.finish hE s q
  show Agree _ (Network.ask s q n) (Network.ask s q n')
  unfold Network.ask
  rw [hm, hm']
  exact finished

theorem datacenters {c c' : Center.Config} (hc : c.veiled = c'.veiled) :
    Agree (Alike E) ((Network.datacenters c).run.run n) ((Network.datacenters c').run.run n') := by
  obtain ⟨password, rfl⟩ := Center.Config.exists_of_veiled hc
  obtain ⟨r, m, m', hm, hm', begun⟩ := (h.client hE c.host).parts
  rw [run_datacenters, run_datacenters, hm, hm']
  cases r with
  | error e => exact ⟨rfl, begun⟩
  | ok s =>
    obtain ⟨answer, left⟩ := begun.ask hE s .datacenters
    exact ⟨congrArg (Except.map (select c)) answer, left⟩

omit h in
theorem twins : Network.Twins Center.Config.veiled 0 (Alike E) where
  configs h := h.configs
  clock h := h.clock.symm
  wait h time := h.clock ▸ h.wait _
  connect := by
    intro n n' h c c' hc
    obtain ⟨host, -⟩ := Center.Config.shown_of_veiled hc
    rw [host]
    exact h.connect hE c'.host
  datacenters h _ _ hc := h.datacenters hE hc
  client h host := h.client hE host
  start h s id := ⟨(h.start hE s (.machines id)).answer.symm, (h.start hE s (.machines id)).left⟩
  finish h s id := h.finish hE s (.machines id)

end Alike

end Network

end StorageDriver
