import Mathlib.Data.List.TakeWhile
import StorageDriver.Csi.Service
import StorageDriver.Driver
import StorageDriver.Fleet
import StorageDriver.Proofs.Connections
import StorageDriver.Proofs.Tables

namespace StorageDriver

theorem Text.trimChars_eq_nil {cs : List Char} :
    trimChars cs = [] ↔ ∀ c ∈ cs, isBlank c = true := by
  rw [trimChars, List.reverse_eq_nil_iff, List.dropWhile_eq_nil_iff]
  simp only [List.mem_reverse]
  constructor
  · intro h c hc
    rw [← List.takeWhile_append_dropWhile (p := isBlank) (l := cs)] at hc
    obtain hc | hc := List.mem_append.1 hc
    · exact List.mem_takeWhile_imp hc
    · exact h c hc
  · exact fun h c hc => h c ((List.dropWhile_sublist isBlank).subset hc)

namespace Config

structure Entry.IsFit (e : Entry) : Prop where
  host : ∃ c ∈ e.host.toList, Text.isBlank c = false
  port : e.port ≠ 0

/-- What is reported of an entry with `i` entries before it. -/
inductive Entry.Faults (i : Nat) (e : Entry) : Error → Prop
  | host (blank : ∀ c ∈ e.host.toList, Text.isBlank c = true) :
    Faults i e (.config s!"virtual_centers[{i}]: host is empty")
  | port (seen : ∃ c ∈ e.host.toList, Text.isBlank c = false) (zero : e.port = 0) :
    Faults i e (.config s!"virtual_centers[{i}] ({e.host}): port must be non-zero")

structure IsFit (c : Config) : Prop where
  present : c.entries ≠ []
  entries : ∀ e ∈ c.entries, e.IsFit
  pool : c.global.poolSize ≠ 0

/-- What is reported of a configuration: the first entry at fault, and the pool after all of
them. -/
inductive Faults (c : Config) : Error → Prop
  | absent (none : c.entries = []) : Faults c (.config "no virtual center configured")
  | entry {before : List Entry} {e : Entry} {after : List Entry} {f : Error}
    (place : c.entries = before ++ e :: after) (fit : ∀ d ∈ before, d.IsFit)
    (fault : e.Faults before.length f) : Faults c f
  | pool (present : c.entries ≠ []) (fit : ∀ e ∈ c.entries, e.IsFit)
    (zero : c.global.poolSize = 0) :
    Faults c (.config "resolver_pool_size must be non-zero")

section Entries

variable {i : Nat} {e : Entry} {es before : List Entry} {f : Error}

theorem Entry.isFit_or_faults (i : Nat) (e : Entry) : e.IsFit ∨ ∃ f, e.Faults i f := by
  by_cases blank : ∀ c ∈ e.host.toList, Text.isBlank c = true
  · exact .inr ⟨_, .host blank⟩
  · have seen : ∃ c ∈ e.host.toList, Text.isBlank c = false := by simpa using blank
    by_cases zero : e.port = 0
    · exact .inr ⟨_, .port seen zero⟩
    · exact .inl ⟨seen, zero⟩

theorem isEmpty_trimChars_of_seen {s : String} (h : ∃ c ∈ s.toList, Text.isBlank c = false) :
    (Text.trimChars s.toList).isEmpty ≠ true := by
  obtain ⟨c, hc, seen⟩ := h
  intro empty
  rw [Text.trimChars_eq_nil.1 (List.isEmpty_iff.1 empty) c hc] at seen
  cases seen

theorem checkEntries_of_isFit (h : e.IsFit) :
    checkEntries i (e :: es) = checkEntries (i + 1) es := by
  rw [checkEntries, if_neg (isEmpty_trimChars_of_seen h.host), if_neg h.port]

theorem checkEntries_of_faults (h : e.Faults i f) : checkEntries i (e :: es) = .error f := by
  cases h with
  | host blank => rw [checkEntries, if_pos (List.isEmpty_iff.2 (Text.trimChars_eq_nil.2 blank))]
  | port seen zero => rw [checkEntries, if_neg (isEmpty_trimChars_of_seen seen), if_pos zero]

theorem checkEntries_append (h : ∀ d ∈ before, d.IsFit) :
    checkEntries i (before ++ es) = checkEntries (i + before.length) es := by
  induction before generalizing i with
  | nil => rfl
  | cons d before ih =>
    obtain ⟨hd, h⟩ := List.forall_mem_cons.1 h
    rw [List.cons_append, checkEntries_of_isFit hd, ih h, List.length_cons, Nat.add_right_comm,
      Nat.add_assoc]

theorem entries_cases (i : Nat) (es : List Entry) : (∀ e ∈ es, e.IsFit) ∨
    ∃ before e after f, es = before ++ e :: after ∧ (∀ d ∈ before, d.IsFit) ∧
      e.Faults (i + before.length) f := by
  induction es generalizing i with
  | nil => exact .inl nofun
  | cons e es ih =>
    obtain fit | ⟨f, hf⟩ := e.isFit_or_faults i
    · obtain hs | ⟨before, e', after, f, rfl, hb, hf⟩ := ih (i + 1)
      · exact .inl (List.forall_mem_cons.2 ⟨fit, hs⟩)
      · refine .inr ⟨e :: before, e', after, f, rfl, List.forall_mem_cons.2 ⟨fit, hb⟩, ?_⟩
        rwa [List.length_cons, Nat.add_comm before.length, ← Nat.add_assoc]
    · exact .inr ⟨[], e, es, f, rfl, nofun, hf⟩

end Entries

variable {c : Config} {f : Error}

theorem isFit_or_faults (c : Config) : c.IsFit ∨ ∃ f, c.Faults f := by
  by_cases none : c.entries = []
  · exact .inr ⟨_, .absent none⟩
  · obtain fit | ⟨before, e, after, f, place, fit, fault⟩ := entries_cases 0 c.entries
    · by_cases zero : c.global.poolSize = 0
      · exact .inr ⟨_, .pool none fit zero⟩
      · exact .inl ⟨none, fit, zero⟩
    · exact .inr ⟨f, .entry place fit (by rwa [Nat.zero_add] at fault)⟩

theorem validate_of_ne_nil (present : c.entries ≠ []) : c.validate =
    (checkEntries 0 c.entries).bind fun _ =>
      if c.global.poolSize = 0 then .error (.config "resolver_pool_size must be non-zero")
      else .ok () := by
  unfold validate
  rw [if_neg (mt List.isEmpty_iff.1 present)]
  rfl

theorem checkEntries_eq_ok {es : List Entry} (fit : ∀ e ∈ es, e.IsFit) :
    checkEntries 0 es = .ok () := by
  rw [← List.append_nil es, checkEntries_append fit, checkEntries]

theorem IsFit.validate (h : c.IsFit) : c.validate = .ok () := by
  rw [validate_of_ne_nil h.present, checkEntries_eq_ok h.entries]
  exact if_neg h.pool

theorem Faults.validate (h : c.Faults f) : c.validate = .error f := by
  cases h with
  | absent none => rw [Config.validate, none]; rfl
  | entry place fit fault =>
    have present : c.entries ≠ [] := by rw [place]; exact List.append_ne_nil_of_right_ne_nil _ nofun
    rw [validate_of_ne_nil present, place, checkEntries_append fit, Nat.zero_add,
      checkEntries_of_faults fault]
    rfl
  | pool present fit zero =>
    rw [validate_of_ne_nil present, checkEntries_eq_ok fit]
    exact if_pos zero

theorem validate_eq_ok : c.validate = .ok () ↔ c.IsFit := by
  refine ⟨fun h => ?_, IsFit.validate⟩
  obtain fit | ⟨f, fault⟩ := c.isFit_or_faults
  · exact fit
  · cases h.symm.trans fault.validate

theorem validate_eq_error : c.validate = .error f ↔ c.Faults f := by
  refine ⟨fun h => ?_, Faults.validate⟩
  obtain fit | ⟨g, fault⟩ := c.isFit_or_faults
  · cases h.symm.trans fit.validate
  · exact Except.error.inj (h.symm.trans fault.validate) ▸ fault

end Config

namespace Network

variable {R : Type}

theorem get?_register (n : Network R) (c : Center.Config) (host : String) :
    (n.register c).centers.get? host =
      (n.centers.get? host).or (if c.host = host then some { config := c } else none) := by
  unfold register
  split
  · rename_i known
    rw [Table.has_eq_isSome] at known
    split
    · obtain ⟨h, hh⟩ := Option.isSome_iff_exists.1 known
      rw [← ‹c.host = host›, hh]
      rfl
    · rw [Option.or_none]
  · rename_i new
    rw [Table.has_eq_isSome, Bool.not_eq_true, Option.isSome_eq_false_iff,
      Option.isNone_iff_eq_none] at new
    rw [Table.get?_put]
    split
    · rw [← ‹c.host = host›, new]
      rfl
    · rw [Option.or_none]

theorem get?_registered (cs : List Center.Config) (n : Network R) (host : String) :
    (cs.foldl register n).centers.get? host =
      (n.centers.get? host).or ((cs.find? (·.host = host)).map fun c => { config := c }) := by
  induction cs generalizing n with
  | nil => rw [List.foldl_nil, List.find?_nil, Option.map_none, Option.or_none]
  | cons c cs ih =>
    rw [List.foldl_cons, ih, get?_register, Option.or_assoc]
    congr 1
    by_cases hc : c.host = host
    · rw [if_pos hc, List.find?_cons_of_pos (by simpa using hc)]
      rfl
    · rw [if_neg hc, List.find?_cons_of_neg (by simpa using hc)]
      rfl

theorem nodup_registered (cs : List Center.Config) {n : Network R} (h : n.hosts.Nodup) :
    (cs.foldl register n).hosts.Nodup := by
  induction cs generalizing n with
  | nil => exact h
  | cons c cs ih =>
    refine ih ?_
    unfold register
    split
    · exact h
    · exact Table.nodup_put h

end Network

namespace Config

variable {R : Type}

/-- The settings that a driver takes from an entry. -/
def Entry.settings (e : Entry) (insecure : Bool) : Center.Config where
  scheme := "https"
  host := e.host
  port := e.port
  user := e.user
  password := e.password
  insecure := e.insecure || insecure
  paths := Center.parsePaths e.datacenters

theorem network_eq (c : Config) (insecure : Bool) (planes : R) : c.network insecure planes =
    (c.entries.map (·.settings insecure)).foldl Network.register { planes := planes } := by
  rw [network, centers, List.map_map]
  rfl

theorem get?_network (c : Config) (insecure : Bool) (planes : R) (host : String) :
    (c.network insecure planes).centers.get? host =
      (c.entries.find? (·.host = host)).map fun e => { config := e.settings insecure } := by
  rw [network_eq, Network.get?_registered, List.find?_map, Option.map_map]
  rfl

/-- A driver that begins: one handle for each host, without a session yet, and volumes at the
center of the first entry. -/
structure Begun (c : Config) (insecure : Bool) (s : Setting) (v : Volumes) (w : World R) :
    Prop where
  distinct : w.net.hosts.Nodup
  hosts : ∀ host, host ∈ w.net.hosts ↔ ∃ e ∈ c.entries, e.host = host
  first : ∀ before e after, c.entries = before ++ e :: after → (∀ d ∈ before, d.host ≠ e.host) →
    (Network.handle e.host).run.run w.net =
      (.ok { config := e.settings insecure, session := none }, w.net)
  pool : s.pool = c.global.poolSize
  volumes : ∃ e, c.entries.head? = some e ∧ v.host = e.host ∧ v.host ∈ w.net.hosts

theorem IsFit.begun {c : Config} (h : c.IsFit) (insecure : Bool)
    (source : Option (String → Except Error String)) (planes : R) :
    ∃ v, c.volumes? = some v ∧ c.Begun insecure (c.setting source) v (c.world insecure planes) := by
  obtain ⟨e, es, he⟩ := List.exists_cons_of_ne_nil h.present
  have hosts (host : String) :
      host ∈ (c.network insecure planes).hosts ↔ ∃ e ∈ c.entries, e.host = host := by
    rw [Network.hosts, Table.mem_keys, get?_network, Option.isSome_map, List.find?_isSome]
    simp only [decide_eq_true_eq]
  refine ⟨{ host := e.host }, by rw [volumes?, he]; rfl, ?_, hosts, ?_, ?_, e, by rw [he]; rfl, rfl,
    (hosts e.host).2 ⟨e, by rw [he]; exact List.mem_cons_self, rfl⟩⟩
  · rw [world, network_eq]
    exact Network.nodup_registered _ List.nodup_nil
  · intro before e after place new
    have found : c.entries.find? (·.host = e.host) = some e := by
      rw [place, List.find?_append, List.find?_eq_none.2 (by simpa using new), Option.none_or,
        List.find?_cons_of_pos (by simp)]
    rw [Network.run_handle, world, get?_network, found]
    rfl
  · exact Nat.max_eq_left (Nat.one_le_iff_ne_zero.2 h.pool)

end Config

theorem Csi.run_ready {R : Type} [Remote R] (s : Setting) (v : Volumes) (w : World R) :
    (ready v).execute s w = (.ok (w.net.centers.get? v.host).isSome, w) := by
  have center : Proc.run s (Attempt.center v.host).run w =
      World.onNet ((·.config) <$> Network.handle v.host).run.run w := rfl
  show Proc.run s ((Attempt.center v.host).run.bind _) w = _
  rw [Proc.run_bind, center, World.onNet, Network.run_config]
  cases w.net.centers.get? v.host <;> rfl

namespace Config

/-- What is accepted is what is fit, what is at fault first is reported, and a driver from an
accepted configuration begins as configured and is ready. -/
theorem acceptance (c : Config) :
    (c.validate = .ok () ↔ c.IsFit) ∧ (∀ f, c.validate = .error f ↔ c.Faults f) ∧
      (c.validate = .ok () → ∀ (R : Type) [Remote R] (planes : R) (insecure : Bool)
        (source : Option (String → Except Error String)),
        ∃ v, c.volumes? = some v ∧
          c.Begun insecure (c.setting source) v (c.world insecure planes) ∧
          (Csi.ready v).execute (c.setting source) (c.world insecure planes) =
            (.ok true, c.world insecure planes)) := by
  refine ⟨validate_eq_ok, fun f => validate_eq_error, fun h R _ planes insecure source => ?_⟩
  obtain ⟨v, hv, begun⟩ := (validate_eq_ok.1 h).begun insecure source planes
  obtain ⟨-, -, -, known⟩ := begun.volumes
  refine ⟨v, hv, begun, ?_⟩
  rw [Csi.run_ready, Table.mem_keys.1 known]

def doubled : Config where
  global := { poolSize := 2 }
  entries := [
    { host := "vc-1", user := "admin", password := "one", datacenters := "dc-1, dc-2" },
    { host := "vc-2", user := "admin", password := "two", insecure := true },
    { host := "vc-1", port := 8443, user := "other", password := "three" }]

theorem acceptance_doubled : doubled.validate = .ok () ∧ ∃ v, doubled.volumes? = some v ∧
    doubled.Begun true (doubled.setting none) v (doubled.world true ({} : Fleet)) ∧
    (Csi.ready v).execute (doubled.setting none) (doubled.world true ({} : Fleet)) =
      (.ok true, doubled.world true {}) :=
  have accepted : doubled.validate = .ok () := by rfl
  ⟨accepted, (acceptance doubled).2.2 accepted Fleet {} true none⟩

end Config

end StorageDriver
