import StorageDriver.Proofs.Histories

namespace StorageDriver

/-- `made` has all handles in the order in which they were made, `current` the number of the one
that a host has. -/
structure Handles (R : Type) where
  made : List Center.Handle := []
  current : Table Nat := []
  planes : R

namespace Handles

variable {R : Type}

def register (c : Center.Config) (s : Handles R) : Nat × Handles R :=
  match s.current.get? c.host with
  | some i => (i, s)
  | none => (s.made.length, { s with
      made := s.made ++ [{ config := c }], current := s.current.put c.host s.made.length })

def get (host : String) (s : Handles R) : Except Error Nat :=
  match s.current.get? host with
  | some i => .ok i
  | none => .error (.notRegistered host)

def unregister (host : String) (s : Handles R) : Except Error Unit × Handles R :=
  match s.current.get? host with
  | some _ => (.ok (), { s with current := s.current.erase host })
  | none => (.error (.notRegistered host), s)

def handle? (s : Handles R) (host : String) : Option Center.Handle :=
  (s.current.get? host).bind (s.made[·]?)

def nth (s : Handles R) (i : Nat) : Center.Handle := s.made.getD i { config := default }

/-- What is seen under the hosts. -/
def network (s : Handles R) : Network R where
  centers := s.current.map fun p => (p.1, s.nth p.2)
  planes := s.planes

section

variable [Remote R]

def connect (i : Nat) (h : Center.Handle) (s : Handles R) : Except Error Session × Handles R :=
  match (Remote.connect h.config).run.run s.planes with
  | (.ok session, planes) =>
    (.ok session, { s with
      made := s.made.set i { h with session := some session }, planes := planes })
  | (.error e, planes) => (.error e, { s with planes := planes })

def client (i : Nat) (h : Center.Handle) (s : Handles R) : Except Error Session × Handles R :=
  match h.session with
  | some session => (.ok session, s)
  | none => s.connect i h

end

/-- A call with what came of it. To connect is to come to a session or to fail. -/
inductive Event
  | register (c : Center.Config) (i : Nat)
  | get (host : String) (r : Except Error Nat)
  | unregister (host : String) (r : Except Error Unit)
  | connect (i : Nat) (r : Except Error Session)
  | client (i : Nat) (r : Except Error Session)

inductive Step [Remote R] (s : Handles R) : Event → Handles R → Prop
  | register (c : Center.Config) : Step s (.register c (s.register c).1) (s.register c).2
  | get (host : String) : Step s (.get host (s.get host)) s
  | unregister (host : String) :
    Step s (.unregister host (s.unregister host).1) (s.unregister host).2
  | connect {i h} (hi : s.made[i]? = some h) :
    Step s (.connect i (s.connect i h).1) (s.connect i h).2
  | client {i h} (hi : s.made[i]? = some h) : Step s (.client i (s.client i h).1) (s.client i h).2

/-- All that comes of calls, one after another, where nothing is registered at first. -/
inductive Reached [Remote R] : List Event → Handles R → Prop
  | start (planes : R) : Reached [] { planes := planes }
  | step {es v s t} (h : Reached es s) (hs : Step s v t) : Reached (es ++ [v]) t

def Event.holder (host : String) (o : Option (Nat × Center.Config)) :
    Event → Option (Nat × Center.Config)
  | register c i => if c.host = host then o.or (some (i, c)) else o
  | unregister host' _ => if host' = host then none else o
  | _ => o

/-- What the first registration of a host since it was last unregistered gave and was given. -/
def holder (es : List Event) (host : String) : Option (Nat × Center.Config) :=
  es.foldl (Event.holder host) none

def Event.opened (i : Nat) (o : Option Session) : Event → Option Session
  | connect j (.ok session) => if j = i then some session else o
  | client j (.ok session) => if j = i then o.or (some session) else o
  | _ => o

/-- The session that handle `i` came to last, by being connected or by being used for the first
time. -/
def opened (es : List Event) (i : Nat) : Option Session := es.foldl (Event.opened i) none

section

variable {es : List Event} {v : Event} {s t : Handles R} {host : String} {i : Nat}

theorem holder_concat (es : List Event) (v : Event) (host : String) :
    holder (es ++ [v]) host = v.holder host (holder es host) := by
  rw [holder, List.foldl_append]
  rfl

theorem opened_concat (es : List Event) (v : Event) (i : Nat) :
    opened (es ++ [v]) i = v.opened i (opened es i) := by
  rw [opened, List.foldl_append]
  rfl

theorem register_of_some {c : Center.Config} (h : s.current.get? c.host = some i) :
    s.register c = (i, s) := by rw [register, h]

theorem register_of_none {c : Center.Config} (h : s.current.get? c.host = none) :
    s.register c = (s.made.length, { s with
      made := s.made ++ [{ config := c }], current := s.current.put c.host s.made.length }) := by
  rw [register, h]

theorem get_eq_error : s.get host = .error (.notRegistered host) ↔ s.current.get? host = none := by
  unfold get
  cases s.current.get? host <;> simp

theorem unregister_of_some (h : s.current.get? host = some i) :
    s.unregister host = (.ok (), { s with current := s.current.erase host }) := by
  rw [unregister, h]

theorem unregister_of_none (h : s.current.get? host = none) :
    s.unregister host = (.error (.notRegistered host), s) := by rw [unregister, h]

variable [Remote R] {h : Center.Handle}

theorem connect_cases (i : Nat) (h : Center.Handle) (s : Handles R) :
    (∃ session planes, s.connect i h = (.ok session, { s with
      made := s.made.set i { h with session := some session }, planes := planes })) ∨
    ∃ e planes, s.connect i h = (.error e, { s with planes := planes }) := by
  unfold connect
  cases (Remote.connect h.config).run.run s.planes with
  | mk r planes =>
    cases r with
    | ok session => exact .inl ⟨session, planes, rfl⟩
    | error e => exact .inr ⟨e, planes, rfl⟩

theorem client_of_some {session : Session} (hs : h.session = some session) (i : Nat)
    (s : Handles R) : s.client i h = (.ok session, s) := by rw [client, hs]

theorem client_of_none (hs : h.session = none) (i : Nat) (s : Handles R) :
    s.client i h = s.connect i h := by rw [client, hs]

end

structure Kept (es : List Event) (s : Handles R) : Prop where
  keys : (s.current.map (·.1)).Nodup
  current : ∀ host, s.current.get? host = (holder es host).map (·.1)
  config : ∀ host i c, holder es host = some (i, c) →
    c.host = host ∧ ∃ h, s.made[i]? = some h ∧ h.config = c
  session : ∀ i h, s.made[i]? = some h → h.session = opened es i
  unopened : ∀ i, s.made.length ≤ i → opened es i = none

namespace Kept

variable {es : List Event} {s t : Handles R} {host : String} {i : Nat} {h : Center.Handle}

theorem exists_handle (hk : Kept es s) (hi : s.current.get? host = some i) :
    ∃ h, s.made[i]? = some h ∧ h.config.host = host := by
  rw [hk.current, Option.map_eq_some_iff] at hi
  obtain ⟨⟨j, c⟩, hc, rfl⟩ := hi
  obtain ⟨hh, h, hm, rfl⟩ := hk.config host j c hc
  exact ⟨h, hm, hh⟩

theorem host_unique (hk : Kept es s) {host' : String} (hi : s.current.get? host = some i)
    (hi' : s.current.get? host' = some i) : host = host' := by
  obtain ⟨h, hm, rfl⟩ := hk.exists_handle hi
  obtain ⟨h', hm', rfl⟩ := hk.exists_handle hi'
  rw [Option.some.inj (hm.symm.trans hm')]

theorem stay (hk : Kept es s) {v : Event} (planes : R)
    (hh : ∀ host, v.holder host (holder es host) = holder es host)
    (ho : ∀ i, v.opened i (opened es i) = opened es i) :
    Kept (es ++ [v]) { s with planes := planes } where
  keys := hk.keys
  current host := by rw [holder_concat, hh]; exact hk.current host
  config host i c hc := hk.config host i c (by rwa [holder_concat, hh] at hc)
  session i h hi := by rw [opened_concat, ho]; exact hk.session i h hi
  unopened i hi := by rw [opened_concat, ho]; exact hk.unopened i hi

theorem make (hk : Kept es s) {c : Center.Config} (hc : s.current.get? c.host = none) :
    Kept (es ++ [.register c s.made.length]) { s with
      made := s.made ++ [{ config := c }], current := s.current.put c.host s.made.length } := by
  have fresh : holder es c.host = none := by
    have := hk.current c.host
    rw [hc] at this
    exact Option.map_eq_none_iff.1 this.symm
  have told (host : String) : holder (es ++ [.register c s.made.length]) host =
      if c.host = host then some (s.made.length, c) else holder es host := by
    rw [holder_concat, Event.holder]
    split
    · rename_i hh
      rw [← hh, fresh, Option.none_or]
    · rfl
  have unopened (j : Nat) : opened (es ++ [.register c s.made.length]) j = opened es j :=
    opened_concat ..
  refine ⟨Table.nodup_put hk.keys, fun host => ?_, fun host j d hd => ?_, fun j h hj => ?_,
    fun j hj => ?_⟩
  · rw [Table.get?_put, told]
    split
    · rfl
    · exact hk.current host
  · rw [told] at hd
    split at hd
    · obtain ⟨rfl, rfl⟩ := Prod.mk.inj (Option.some.inj hd)
      exact ⟨‹_›, { config := c }, List.getElem?_concat_length, rfl⟩
    · obtain ⟨hh, h, hm, he⟩ := hk.config host j d hd
      exact ⟨hh, h, List.getElem?_append_left (List.getElem?_eq_some_iff.1 hm).1 ▸ hm, he⟩
  · rw [unopened]
    by_cases hl : j < s.made.length
    · rw [List.getElem?_append_left hl] at hj
      exact hk.session j h hj
    · rw [List.getElem?_append_right (Nat.le_of_not_lt hl)] at hj
      have hm := List.mem_singleton.1 (List.mem_of_getElem? hj)
      rw [hk.unopened j (Nat.le_of_not_lt hl), hm]
  · rw [unopened]
    refine hk.unopened j ?_
    simp only [List.length_append, List.length_singleton] at hj
    omega

theorem register (hk : Kept es s) (c : Center.Config) :
    Kept (es ++ [.register c (s.register c).1]) (s.register c).2 := by
  cases hc : s.current.get? c.host with
  | none =>
    rw [register_of_none hc]
    exact hk.make hc
  | some i =>
    rw [register_of_some hc]
    refine hk.stay s.planes (fun host => ?_) fun _ => rfl
    rw [Event.holder]
    split
    · rename_i hh
      rw [hk.current, Option.map_eq_some_iff] at hc
      obtain ⟨p, hp, -⟩ := hc
      rw [← hh, hp, Option.some_or]
    · rfl

theorem forget (hk : Kept es s) (host : String) (r : Except Error Unit) :
    Kept (es ++ [.unregister host r]) { s with current := s.current.erase host } := by
  have told (k : String) : holder (es ++ [.unregister host r]) k =
      if host = k then none else holder es k := holder_concat ..
  have unopened (j : Nat) : opened (es ++ [.unregister host r]) j = opened es j :=
    opened_concat ..
  refine ⟨hk.keys.sublist (List.filter_sublist.map _), fun k => ?_, fun k j d hd => ?_,
    fun j h hj => ?_, fun j hj => ?_⟩
  · rw [Table.get?_erase, told]
    split
    · rfl
    · exact hk.current k
  · rw [told] at hd
    split at hd
    · cases hd
    · exact hk.config k j d hd
  · rw [unopened]
    exact hk.session j h hj
  · rw [unopened]
    exact hk.unopened j hj

theorem unregister (hk : Kept es s) (host : String) :
    Kept (es ++ [.unregister host (s.unregister host).1]) (s.unregister host).2 := by
  cases hc : s.current.get? host with
  | some i =>
    rw [unregister_of_some hc]
    exact hk.forget host (.ok ())
  | none =>
    rw [unregister_of_none hc]
    refine hk.stay s.planes (fun k => ?_) fun _ => rfl
    have := hk.current host
    rw [hc] at this
    rw [Event.holder]
    split
    · rename_i hh
      rw [← hh, Option.map_eq_none_iff.1 this.symm]
    · rfl

theorem establish (hk : Kept es s) (hi : s.made[i]? = some h) {v : Event} (session : Session)
    (planes : R) (hh : ∀ host, v.holder host (holder es host) = holder es host)
    (ho : ∀ j, v.opened j (opened es j) = if i = j then some session else opened es j) :
    Kept (es ++ [v]) { s with
      made := s.made.set i { h with session := some session }, planes := planes } where
  keys := hk.keys
  current host := by rw [holder_concat, hh]; exact hk.current host
  config host j c hc := by
    rw [holder_concat, hh] at hc
    obtain ⟨named, k, hj, rfl⟩ := hk.config host j c hc
    refine ⟨named, ?_⟩
    by_cases hij : i = j
    · subst hij
      obtain rfl := Option.some.inj (hi.symm.trans hj)
      exact ⟨_, List.getElem?_set_self (List.getElem?_eq_some_iff.1 hi).1, rfl⟩
    · exact ⟨k, (List.getElem?_set_ne hij).trans hj, rfl⟩
  session j k hj := by
    rw [opened_concat, ho]
    by_cases hij : i = j
    · subst hij
      rw [List.getElem?_set_self (List.getElem?_eq_some_iff.1 hi).1] at hj
      rw [if_pos rfl, ← Option.some.inj hj]
    · rw [List.getElem?_set_ne hij] at hj
      rw [if_neg hij]
      exact hk.session j k hj
  unopened j hj := by
    rw [List.length_set] at hj
    have hij : i ≠ j := Nat.ne_of_lt (Nat.lt_of_lt_of_le (List.getElem?_eq_some_iff.1 hi).1 hj)
    rw [opened_concat, ho, if_neg hij]
    exact hk.unopened j hj

variable [Remote R]

theorem connect (hk : Kept es s) (hi : s.made[i]? = some h) :
    Kept (es ++ [.connect i (s.connect i h).1]) (s.connect i h).2 := by
  obtain ⟨session, planes, he⟩ | ⟨e, planes, he⟩ := connect_cases i h s
  · rw [he]
    exact hk.establish hi session planes (fun _ => rfl) fun _ => rfl
  · rw [he]
    exact hk.stay planes (fun _ => rfl) fun _ => rfl

theorem client (hk : Kept es s) (hi : s.made[i]? = some h) :
    Kept (es ++ [.client i (s.client i h).1]) (s.client i h).2 := by
  have ho := hk.session i h hi
  cases hs : h.session with
  | some session =>
    rw [client_of_some hs]
    refine hk.stay s.planes (fun _ => rfl) fun j => ?_
    rw [Event.opened]
    split
    · rename_i hij
      rw [← hij, ← ho, hs, Option.some_or]
    · rfl
  | none =>
    rw [client_of_none hs]
    obtain ⟨session, planes, he⟩ | ⟨e, planes, he⟩ := connect_cases i h s
    · rw [he]
      refine hk.establish hi session planes (fun _ => rfl) fun j => ?_
      rw [Event.opened]
      split
      · rename_i hij
        rw [← hij, ← ho, hs, Option.none_or]
      · rfl
    · rw [he]
      exact hk.stay planes (fun _ => rfl) fun _ => rfl

theorem step (hk : Kept es s) {v : Event} (hs : Step s v t) : Kept (es ++ [v]) t := by
  cases hs with
  | register c => exact hk.register c
  | get host => exact hk.stay s.planes (fun _ => rfl) fun _ => rfl
  | unregister host => exact hk.unregister host
  | connect hi => exact hk.connect hi
  | client hi => exact hk.client hi

end Kept

theorem kept_start (planes : R) : Kept [] ({ planes := planes } : Handles R) where
  keys := List.nodup_nil
  current _ := rfl
  config _ _ _ h := nomatch h
  session _ _ h := nomatch h
  unopened _ _ := rfl

theorem Reached.kept [Remote R] {es : List Event} {s : Handles R} (h : Reached es s) :
    Kept es s := by
  induction h with
  | start planes => exact kept_start planes
  | step _ hs ih => exact ih.step hs

def Event.host? (s : Handles R) : Event → Option String
  | register c _ => some c.host
  | get host _ | unregister host _ => some host
  | connect i _ | client i _ => s.made[i]?.map (·.config.host)

section

variable [Remote R] {es : List Event} {v : Event} {s t : Handles R} {host : String} {i j : Nat}
  {h k : Center.Handle}

theorem made_connect (hij : i ≠ j) (h : Center.Handle) (s : Handles R) :
    (s.connect i h).2.made[j]? = s.made[j]? := by
  obtain ⟨session, planes, he⟩ | ⟨e, planes, he⟩ := connect_cases i h s
  · rw [he]
    exact List.getElem?_set_ne hij
  · rw [he]

theorem current_connect (i : Nat) (h : Center.Handle) (s : Handles R) :
    (s.connect i h).2.current = s.current := by
  obtain ⟨session, planes, he⟩ | ⟨e, planes, he⟩ := connect_cases i h s <;> rw [he]

theorem client_cases (i : Nat) (h : Center.Handle) (s : Handles R) :
    (s.client i h).2 = s ∨ s.client i h = s.connect i h := by
  cases hs : h.session with
  | some session => exact .inl (by rw [client_of_some hs])
  | none => exact .inr (client_of_none hs i s)

theorem Step.made (hs : Step s v t) (hj : s.made[j]? = some k)
    (hv : v.host? s ≠ some k.config.host) : t.made[j]? = some k := by
  have other {i : Nat} (hv : s.made[i]?.map (·.config.host) ≠ some k.config.host) : i ≠ j :=
    fun he => hv (by rw [he, hj]; rfl)
  cases hs with
  | register c =>
    cases hc : s.current.get? c.host with
    | some i => rw [register_of_some hc, hj]
    | none =>
      rw [register_of_none hc]
      exact (List.getElem?_append_left (List.getElem?_eq_some_iff.1 hj).1).trans hj
  | get host => exact hj
  | unregister host =>
    cases hc : s.current.get? host with
    | some i => rw [unregister_of_some hc]; exact hj
    | none => rw [unregister_of_none hc]; exact hj
  | connect hi => exact (made_connect (other hv) _ s).trans hj
  | @client i h hi =>
    obtain he | he := client_cases i h s
    · rw [he, hj]
    · rw [he]
      exact (made_connect (other hv) _ s).trans hj

theorem Step.current (hs : Step s v t) (hv : v.host? s ≠ some host) :
    t.current.get? host = s.current.get? host := by
  cases hs with
  | register c =>
    have hne : c.host ≠ host := fun he => hv (congrArg some he)
    cases hc : s.current.get? c.host with
    | some i => rw [register_of_some hc]
    | none =>
      rw [register_of_none hc]
      exact (Table.get?_put ..).trans (if_neg hne)
  | get host => rfl
  | unregister k =>
    have hne : k ≠ host := fun he => hv (congrArg some he)
    cases hc : s.current.get? k with
    | some i =>
      rw [unregister_of_some hc]
      exact (Table.get?_erase ..).trans (if_neg hne)
    | none => rw [unregister_of_none hc]
  | connect hi => rw [current_connect]
  | @client i h hi =>
    obtain he | he := client_cases i h s
    · rw [he]
    · rw [he, current_connect]

theorem Kept.handle?_step (hk : Kept es s) (hs : Step s v t) (hv : v.host? s ≠ some host) :
    t.handle? host = s.handle? host := by
  rw [handle?, handle?, hs.current hv]
  cases hc : s.current.get? host with
  | none => rfl
  | some i =>
    obtain ⟨h, hi, rfl⟩ := hk.exists_handle hc
    exact (hs.made hi hv).trans hi.symm

end

theorem nth_of_some {s : Handles R} {i : Nat} {h : Center.Handle} (hi : s.made[i]? = some h) :
    s.nth i = h := by
  rw [nth, List.getD_eq_getElem?_getD, hi]
  rfl

theorem get?_centers (s : Handles R) (host : String) :
    s.network.centers.get? host = (s.current.get? host).map s.nth :=
  Table.get?_map s.nth s.current host

theorem network_unregister (s : Handles R) (host : String) :
    (Network.unregister host).run.run s.network =
      ((s.unregister host).1, (s.unregister host).2.network) := by
  rw [Network.run_unregister, get?_centers]
  cases hc : s.current.get? host with
  | some i =>
    rw [unregister_of_some hc]
    exact Prod.ext rfl (congrArg (fun centers => ({ centers, planes := s.planes } : Network R))
      (Table.map_erase s.nth s.current host).symm)
  | none => rw [unregister_of_none hc]; rfl

namespace Kept

variable {es : List Event} {s t : Handles R} {host : String} {i : Nat} {h : Center.Handle}

theorem get?_network (hk : Kept es s) (host : String) :
    s.network.centers.get? host = s.handle? host := by
  rw [get?_centers, handle?]
  cases hc : s.current.get? host with
  | none => rfl
  | some i =>
    obtain ⟨h, hi, -⟩ := hk.exists_handle hc
    show some (s.nth i) = s.made[i]?
    rw [nth_of_some hi, hi]

theorem centers_congr (hk : Kept es s) {f : Nat → Center.Handle}
    (hf : ∀ host i, s.current.get? host = some i → f i = s.nth i) :
    (s.current.map fun p => (p.1, f p.2)) = s.network.centers :=
  List.map_congr_left fun p hp => by rw [hf p.1 p.2 (Table.get?_of_mem hk.keys hp)]

theorem network_register (hk : Kept es s) (c : Center.Config) :
    (s.register c).2.network = s.network.register c := by
  rw [Network.register, Table.has_eq_isSome, get?_centers]
  cases hc : s.current.get? c.host with
  | some i => rw [register_of_some hc]; rfl
  | none =>
    rw [register_of_none hc]
    let t : Handles R := { s with made := s.made ++ [{ config := c }] }
    have old : ∀ host i, s.current.get? host = some i → t.nth i = s.nth i := by
      intro host i hi
      obtain ⟨h, hm, -⟩ := hk.exists_handle hi
      rw [nth_of_some hm]
      exact nth_of_some ((List.getElem?_append_left (List.getElem?_eq_some_iff.1 hm).1).trans hm)
    have new : t.nth s.made.length = { config := c } := nth_of_some List.getElem?_concat_length
    have seen := Table.map_put t.nth s.current c.host s.made.length
    rw [hk.centers_congr old, new] at seen
    exact congrArg (fun centers => ({ centers, planes := s.planes } : Network R)) seen

theorem network_handle (hk : Kept es s) (host : String) :
    (Network.handle host).run.run s.network = match s.handle? host with
      | some h => (.ok h, s.network)
      | none => (.error (.notRegistered host), s.network) := by
  have h := Network.run_handle host s.network
  rw [hk.get?_network] at h
  refine h.trans ?_
  cases s.handle? host <;> rfl

theorem centers_establish (hk : Kept es s) (hi : s.made[i]? = some h)
    (hc : s.current.get? host = some i) (session : Session) (planes : R) :
    ({ s with made := s.made.set i { h with session := some session }, planes := planes } :
      Handles R).network.centers =
        s.network.centers.put host { h with session := some session } := by
  have keys : s.network.centers.map (·.1) = s.current.map (·.1) := List.map_map ..
  have mem : host ∈ s.current.map (·.1) := Table.mem_keys.2 (by rw [hc]; rfl)
  rw [Table.put_eq_map (keys ▸ hk.keys) (keys ▸ mem)]
  refine (List.map_congr_left fun p hp => ?_).trans (List.map_map ..).symm
  have hj := Table.get?_of_mem hk.keys hp
  refine Prod.ext rfl ?_
  show _ = if p.1 = host then _ else s.nth p.2
  by_cases he : p.1 = host
  · rw [he, hc] at hj
    rw [if_pos he, ← Option.some.inj hj]
    exact nth_of_some (List.getElem?_set_self (List.getElem?_eq_some_iff.1 hi).1)
  · have hne : i ≠ p.2 := fun hip => he (hk.host_unique hj (hip ▸ hc))
    obtain ⟨k, hm, -⟩ := hk.exists_handle hj
    rw [if_neg he, nth_of_some hm]
    exact nth_of_some ((List.getElem?_set_ne hne).trans hm)

variable [Remote R]

theorem dialed_network (hk : Kept es s) (hi : s.made[i]? = some h)
    (hc : s.current.get? host = some i) :
    s.network.dialed host h = ((s.connect i h).1, (s.connect i h).2.network) := by
  unfold Network.dialed Handles.connect
  show (match (Remote.connect h.config).run.run s.planes with
    | (.ok _, _) => _
    | (.error _, _) => _) = _
  cases (Remote.connect h.config).run.run s.planes with
  | mk r planes =>
    cases r with
    | error e => rfl
    | ok session =>
      exact Prod.ext rfl (congrArg (fun centers => ({ centers, planes } : Network R))
        (hk.centers_establish hi hc session planes).symm)

theorem network_connect (hk : Kept es s) (hi : s.made[i]? = some h)
    (hc : s.current.get? host = some i) :
    (Network.connect host).run.run s.network =
      ((s.connect i h).1.map fun _ => (), (s.connect i h).2.network) := by
  have hh : s.handle? host = some h := by rw [handle?, hc]; exact hi
  rw [Network.run_connect, hk.get?_network, hh]
  show ((s.network.dialed host h).1.map _, (s.network.dialed host h).2) = _
  rw [hk.dialed_network hi hc]

theorem network_client (hk : Kept es s) (hi : s.made[i]? = some h)
    (hc : s.current.get? host = some i) :
    (Network.client host).run.run s.network = ((s.client i h).1, (s.client i h).2.network) := by
  have hh : s.handle? host = some h := by rw [handle?, hc]; exact hi
  rw [Network.run_client, hk.get?_network, hh]
  cases hs : h.session with
  | some session =>
    rw [client_of_some hs]
    simp only [hs]
  | none =>
    rw [client_of_none hs]
    simp only [hs]
    exact hk.dialed_network hi hc

/-- Who uses a handle that no host has any more changes nothing that is seen. -/
theorem network_lapsed (hk : Kept es s) (hi : ∀ host, s.current.get? host ≠ some i)
    (h : Center.Handle) : (s.connect i h).2.network.centers = s.network.centers := by
  have other : ∀ host j, s.current.get? host = some j → (s.connect i h).2.nth j = s.nth j := by
    intro host j hj
    have hne : i ≠ j := fun he => hi host (he ▸ hj)
    obtain ⟨k, hm, -⟩ := hk.exists_handle hj
    rw [nth_of_some hm]
    exact nth_of_some ((made_connect hne h s).trans hm)
  rw [← hk.centers_congr other, network, current_connect]

end Kept

/-- What holds after the calls `es`, and what the next call then does. -/
structure Rules [Remote R] (es : List Event) (s : Handles R) : Prop where
  /-- A host has one handle at most, and no other host has it. -/
  keys : (s.current.map (·.1)).Nodup
  apart : ∀ host host' i, s.current.get? host = some i → s.current.get? host' = some i →
    host = host'
  /-- The handle that a host has names the host. Its number and its configuration are of the first
  registration since the host was last unregistered. -/
  held : ∀ host i, s.current.get? host = some i → ∃ h, s.handle? host = some h ∧
    s.made[i]? = some h ∧ h.config.host = host ∧ holder es host = some (i, h.config)
  vacant : ∀ host, s.current.get? host = none → s.handle? host = none ∧ holder es host = none
  session : ∀ i h, s.made[i]? = some h → h.session = opened es i
  register_again : ∀ c i, s.current.get? c.host = some i → s.register c = (i, s)
  get_eq_error : ∀ host, s.get host = .error (.notRegistered host) ↔ s.handle? host = none
  get_eq_ok : ∀ host i, s.current.get? host = some i → s.get host = .ok i
  unregister_eq_error : ∀ host,
    s.unregister host = (.error (.notRegistered host), s) ↔ s.handle? host = none
  unregister_eq_ok : ∀ host i, s.current.get? host = some i →
    (s.unregister host).1 = .ok () ∧ (s.unregister host).2.handle? host = none
  /-- Who fails to connect still has the session of before. -/
  connect_failed : ∀ i h e, s.made[i]? = some h → (s.connect i h).1 = .error e →
    (s.connect i h).2.made = s.made ∧ (s.connect i h).2.current = s.current ∧
    ∀ session, h.session = some session →
      (s.connect i h).2.client i h = (.ok session, (s.connect i h).2)
  client_of_some : ∀ i h session, s.made[i]? = some h → h.session = some session →
    s.client i h = (.ok session, s)
  client_of_none : ∀ i h, s.made[i]? = some h → h.session = none → s.client i h = s.connect i h
  /-- A call leaves the handles of the hosts that it is not about, also those of no host. -/
  other_host : ∀ v (t : Handles R), Step s v t → ∀ host, v.host? s ≠ some host →
    t.current.get? host = s.current.get? host ∧ t.handle? host = s.handle? host
  other_made : ∀ v (t : Handles R), Step s v t → ∀ (j : Nat) h, s.made[j]? = some h →
    v.host? s ≠ some h.config.host → t.made[j]? = some h
  /-- Under the hosts it all looks as the network has it. -/
  network_register : ∀ c, (s.register c).2.network = s.network.register c
  network_handle : ∀ host, (Network.handle host).run.run s.network = match s.handle? host with
    | some h => (.ok h, s.network)
    | none => (.error (.notRegistered host), s.network)
  network_unregister : ∀ host, (Network.unregister host).run.run s.network =
    ((s.unregister host).1, (s.unregister host).2.network)
  network_connect : ∀ host i h, s.made[i]? = some h → s.current.get? host = some i →
    (Network.connect host).run.run s.network =
      ((s.connect i h).1.map fun _ => (), (s.connect i h).2.network)
  network_client : ∀ host i h, s.made[i]? = some h → s.current.get? host = some i →
    (Network.client host).run.run s.network = ((s.client i h).1, (s.client i h).2.network)
  network_lapsed : ∀ i h, (∀ host, s.current.get? host ≠ some i) →
    (s.connect i h).2.network.centers = s.network.centers ∧
    (s.client i h).2.network.centers = s.network.centers

theorem Kept.handle?_eq_none {es : List Event} {s : Handles R} {host : String} (hk : Kept es s) :
    s.handle? host = none ↔ s.current.get? host = none := by
  rw [handle?]
  cases hc : s.current.get? host with
  | none => exact iff_of_true rfl rfl
  | some i =>
    obtain ⟨h, hi, -⟩ := hk.exists_handle hc
    exact iff_of_false (fun hn => nomatch hi.symm.trans hn) nofun

/-- The rules hold over every run. -/
theorem rules_of_reached [Remote R] {es : List Event} {s : Handles R} (h : Reached es s) :
    Rules es s where
  keys := h.kept.keys
  apart host host' i hi hi' := h.kept.host_unique hi hi'
  held host i hc := by
    have hh := h.kept.current host
    rw [hc] at hh
    obtain ⟨⟨j, c⟩, hp, rfl⟩ := Option.map_eq_some_iff.1 hh.symm
    obtain ⟨named, hd, hm, rfl⟩ := h.kept.config host j c hp
    exact ⟨hd, by rw [handle?, hc]; exact hm, hm, named, hp⟩
  vacant host hc := ⟨h.kept.handle?_eq_none.2 hc, by
    have hh := h.kept.current host
    rw [hc] at hh
    exact Option.map_eq_none_iff.1 hh.symm⟩
  session i hd hi := h.kept.session i hd hi
  register_again c i hc := register_of_some hc
  get_eq_error host := Handles.get_eq_error.trans h.kept.handle?_eq_none.symm
  get_eq_ok host i hc := by rw [get, hc]
  unregister_eq_error host := by
    rw [h.kept.handle?_eq_none]
    cases hc : s.current.get? host with
    | none => exact iff_of_true (unregister_of_none hc) rfl
    | some i =>
      rw [unregister_of_some hc]
      exact iff_of_false (fun he => nomatch congrArg Prod.fst he) nofun
  unregister_eq_ok host i hc := by
    rw [unregister_of_some hc]
    refine ⟨rfl, ?_⟩
    rw [handle?]
    show ((s.current.erase host).get? host).bind _ = none
    rw [Table.get?_erase, if_pos rfl]
    rfl
  connect_failed i hd e hi he := by
    obtain ⟨session, planes, hc⟩ | ⟨e', planes, hc⟩ := connect_cases i hd s
    · rw [hc] at he
      cases he
    · rw [hc]
      exact ⟨rfl, rfl, fun session hs => Handles.client_of_some hs i _⟩
  client_of_some i hd session _ hs := Handles.client_of_some hs i s
  client_of_none i hd _ hs := Handles.client_of_none hs i s
  other_host v t hs host hv := ⟨hs.current hv, h.kept.handle?_step hs hv⟩
  other_made v t hs j hd hj hv := hs.made hj hv
  network_register c := h.kept.network_register c
  network_handle host := h.kept.network_handle host
  network_unregister host := Handles.network_unregister s host
  network_connect host i hd hi hc := h.kept.network_connect hi hc
  network_client host i hd hi hc := h.kept.network_client hi hc
  network_lapsed i hd hi := by
    have hl := h.kept.network_lapsed hi hd
    obtain hc | hc := client_cases i hd s
    · exact ⟨hl, by rw [hc]⟩
    · exact ⟨hl, by rw [hc]; exact hl⟩

end Handles

/-- What comes of the attempts to connect that are still to be made. -/
structure Outcomes where
  next : List (Except Error Session)

namespace Outcomes

instance : Remote Outcomes where
  connect c o := match o.next with
    | [] => (.error (.connection c.host "no route to host"), o)
    | r :: rest => (r, ⟨rest⟩)
  start _ _ o := (0, o)
  finish _ _ o := (.error .cancelled, o)

def config : Center.Config := { host := "vc", port := 443, user := "u", password := "p" }

def refused : Error := .connection "vc" "connection refused"

/-- A second session is refused, and the first is still there for whoever registers again. -/
theorem rules_refused : ∃ s : Handles Outcomes,
    Handles.Rules [.register config 0, .connect 0 (.ok ⟨"vc", 1⟩), .connect 0 (.error refused),
      .register { config with user := "v" } 0, .client 0 (.ok ⟨"vc", 1⟩)] s ∧
    s.handle? "vc" = some { config := config, session := some ⟨"vc", 1⟩ } := by
  let s₀ : Handles Outcomes := { planes := ⟨[.ok ⟨"vc", 1⟩, .error refused]⟩ }
  let s₁ := (s₀.register config).2
  let s₂ := (s₁.connect 0 { config := config }).2
  let h : Center.Handle := { config := config, session := some ⟨"vc", 1⟩ }
  let s₃ := (s₂.connect 0 h).2
  let s₄ := (s₃.register { config with user := "v" }).2
  have r₁ : Handles.Reached [.register config 0] s₁ := .step (.start _) (.register config)
  have r₂ : Handles.Reached [.register config 0, .connect 0 (.ok ⟨"vc", 1⟩)] s₂ :=
    .step r₁ (.connect rfl)
  have r₃ : Handles.Reached
      [.register config 0, .connect 0 (.ok ⟨"vc", 1⟩), .connect 0 (.error refused)] s₃ :=
    .step r₂ (.connect (h := h) rfl)
  exact ⟨(s₄.client 0 h).2, Handles.rules_of_reached
    (.step (.step r₃ (.register _)) (.client (h := h) rfl)), rfl⟩

end Outcomes

end StorageDriver
