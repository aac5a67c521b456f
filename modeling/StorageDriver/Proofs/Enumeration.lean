import StorageDriver.Proofs.CenterVisits
import StorageDriver.Search.Listing

namespace StorageDriver

/-- An enumeration with what its consumer has taken and which failures it has heard of. -/
structure Enumeration (R : Type) where
  stream : Stream
  net : Network R
  taken : List Datacenter := []
  told : List Error := []
  cancelled : Bool := false

namespace Enumeration

inductive Move
  | produce
  | take
  | hear
  | cancel

section

variable {R : Type} [Remote R]

def start (cs : List Center.Config) (room : Nat) (n : Network R) : Enumeration R where
  stream := .ofCenters cs room
  net := n

def step (e : Enumeration R) : Move → Option (Enumeration R)
  | .produce =>
    (e.stream.step e.cancelled e.net).map fun (s, n) => { e with stream := s, net := n }
  | .take =>
    match e.stream.queue with
    | [] => none
    | d :: ds => some { e with taken := e.taken ++ [d], stream := { e.stream with queue := ds } }
  | .hear =>
    e.stream.fault.map fun x =>
      { e with told := e.told ++ [x], stream := { e.stream with fault := none } }
  | .cancel => some { e with cancelled := true }

def follow (e : Enumeration R) : List Move → Option (Enumeration R)
  | [] => some e
  | m :: ms => (e.step m).bind fun e => e.follow ms

def published (e : Enumeration R) : List Datacenter := e.taken ++ e.stream.queue

def errors (e : Enumeration R) : List Error := e.told ++ e.stream.fault.toList

variable {e e' : Enumeration R} {m : Move} {ms : List Move}

theorem of_step_other (h : e.step m = some e') (hm : m ≠ .produce) :
    e'.published = e.published ∧ e'.errors = e.errors ∧ e'.net = e.net ∧
      { e'.stream with queue := e.stream.queue, fault := e.stream.fault } = e.stream ∧
      (e.cancelled = true → e'.cancelled = true) := by
  cases m with
  | produce => cases hm rfl
  | take =>
    simp only [step] at h
    split at h
    · cases h
    · rename_i d ds hq
      obtain rfl := Option.some.inj h
      exact ⟨by simp [published, hq], rfl, rfl, rfl, id⟩
  | hear =>
    obtain ⟨x, hx, rfl⟩ := Option.map_eq_some_iff.1 h
    exact ⟨rfl, by simp [errors, hx], rfl, rfl, id⟩
  | cancel =>
    obtain rfl := Option.some.inj h
    exact ⟨rfl, rfl, rfl, rfl, fun _ => rfl⟩

theorem producer_of_step_other (h : e.step m = some e') (hm : m ≠ .produce) :
    e'.stream.producer = e.stream.producer := by
  have hs := congrArg Stream.producer (of_step_other h hm).2.2.2.1
  exact hs

theorem follow_ended (he : e.stream.producer = .ended) (h : e.follow ms = some e') :
    e'.published = e.published ∧ e'.errors = e.errors := by
  induction ms generalizing e with
  | nil => exact Option.some.inj h ▸ ⟨rfl, rfl⟩
  | cons m ms ih =>
    obtain ⟨u, hu, h⟩ := Option.bind_eq_some_iff.1 h
    have hm : m ≠ .produce := by
      rintro rfl
      simp [step, Stream.step, he] at hu
    obtain ⟨hp, hx, -⟩ := of_step_other hu hm
    obtain ⟨hp', hx'⟩ := ih ((producer_of_step_other hu hm).trans he) h
    exact ⟨hp'.trans hp, hx'.trans hx⟩

theorem cancel_mem_of_follow (h : e.follow ms = some e') (he : e.cancelled = false)
    (hc : e'.cancelled = true) : .cancel ∈ ms := by
  induction ms generalizing e with
  | nil =>
    obtain rfl := Option.some.inj h
    exact absurd hc (by simp [he])
  | cons m ms ih =>
    obtain ⟨u, hu, h⟩ := Option.bind_eq_some_iff.1 h
    cases m with
    | cancel => exact List.mem_cons_self
    | produce | hear =>
      obtain ⟨x, -, rfl⟩ := Option.map_eq_some_iff.1 hu
      exact List.mem_cons_of_mem _ (ih h he)
    | take =>
      simp only [step] at hu
      split at hu
      · cases hu
      · obtain rfl := Option.some.inj hu
        exact List.mem_cons_of_mem _ (ih h he)

end

variable {e e' : Enumeration Fleet} {f : Fleet} {cs : List Center.Config} {m : Move}
  {ms : List Move}

/-- How far an enumeration of `cs` has come. `seen` are the centers that were listed. -/
inductive Stage (f : Fleet) (cs : List Center.Config) (e : Enumeration Fleet) : Prop
  | visiting (seen rest : List Center.Config) (producer : e.stream.producer = .visiting rest)
      (split : cs = seen ++ rest) (good : ∀ c ∈ seen, (f.listed c).isOk = true)
      (published : e.published = seen.flatMap f.offered) (errors : e.errors = [])
      (contacts : f.Contacts seen e.net.planes)
  | listing (seen : List Center.Config) (c : Center.Config) (rest : List Center.Config)
      (producer : e.stream.producer = .listing c rest) (split : cs = seen ++ c :: rest)
      (good : ∀ c ∈ seen, (f.listed c).isOk = true)
      (published : e.published = seen.flatMap f.offered) (errors : e.errors = [])
      (contacts : f.Contacts (seen ++ [c]) e.net.planes)
      (connected : ∃ p, f.get? c.host = some p ∧ (p.connect c.host).1 = .ok ())
      (session : ∃ hd s, e.net.centers.get? c.host = some hd ∧ hd.session = some s)
  | publishing (seen rest : List Center.Config) (ds : List Datacenter)
      (producer : e.stream.producer = .publishing ds rest) (split : cs = seen ++ rest)
      (good : ∀ c ∈ seen, (f.listed c).isOk = true)
      (published : e.published ++ ds = seen.flatMap f.offered) (errors : e.errors = [])
      (contacts : f.Contacts seen e.net.planes)
  | finished (producer : e.stream.producer = .ended) (good : ∀ c ∈ cs, (f.listed c).isOk = true)
      (published : e.published = f.full cs) (errors : e.errors = [])
      (contacts : f.Contacts cs e.net.planes)
  | cancelled (seen rest : List Center.Config) (producer : e.stream.producer = .ended)
      (split : cs = seen ++ rest) (published : e.published <+: f.full cs)
      (errors : e.errors = [.cancelled]) (cancelled : e.cancelled = true)
      (contacts : f.Contacts seen e.net.planes)
  | failed (seen : List Center.Config) (c : Center.Config) (rest : List Center.Config) (x : Error)
      (producer : e.stream.producer = .ended) (split : cs = seen ++ c :: rest)
      (good : ∀ c ∈ seen, (f.listed c).isOk = true) (failure : f.listed c = .error x)
      (published : e.published = f.full cs) (errors : e.errors = [x])
      (contacts : f.Contacts (seen ++ [c]) e.net.planes)

theorem Stage.other (h : Stage f cs e) (hx : e.step m = some e') (hm : m ≠ .produce) :
    Stage f cs e' := by
  obtain ⟨hp, he, hn, -, hc⟩ := of_step_other hx hm
  have hr := producer_of_step_other hx hm
  cases h with
  | visiting seen rest producer split good published errors contacts =>
    exact .visiting seen rest (hr.trans producer) split good (hp.trans published)
      (he.trans errors) (hn ▸ contacts)
  | listing seen c rest producer split good published errors contacts connected session =>
    exact .listing seen c rest (hr.trans producer) split good (hp.trans published)
      (he.trans errors) (hn ▸ contacts) connected (hn ▸ session)
  | publishing seen rest ds producer split good published errors contacts =>
    exact .publishing seen rest ds (hr.trans producer) split good (hp ▸ published)
      (he.trans errors) (hn ▸ contacts)
  | finished producer good published errors contacts =>
    exact .finished (hr.trans producer) good (hp.trans published) (he.trans errors) (hn ▸ contacts)
  | cancelled seen rest producer split published errors cancelled contacts =>
    exact .cancelled seen rest (hr.trans producer) split (hp ▸ published) (he.trans errors)
      (hc cancelled) (hn ▸ contacts)
  | failed seen c rest x producer split good failure published errors contacts =>
    exact .failed seen c rest x (hr.trans producer) split good failure (hp.trans published)
      (he.trans errors) (hn ▸ contacts)

namespace Stage

theorem isPrefix (h : Stage f cs e) : e.published <+: f.full cs := by
  cases h with
  | visiting seen rest _ split good published =>
    rw [split, Fleet.full_append good, published]
    exact List.prefix_append _ _
  | listing seen c rest _ split good published =>
    rw [split, Fleet.full_append good, published]
    exact List.prefix_append _ _
  | publishing seen rest ds _ split good published =>
    rw [split, Fleet.full_append good, ← published, List.append_assoc]
    exact List.prefix_append _ _
  | finished _ _ published | failed _ _ _ _ _ _ _ _ published => exact published ▸ List.prefix_rfl
  | cancelled _ _ _ _ published => exact published

theorem ended_of_errors (h : Stage f cs e) (he : e.errors ≠ []) :
    e.stream.producer = .ended := by
  cases h with
  | visiting _ _ _ _ _ _ errors | listing _ _ _ _ _ _ _ errors
  | publishing _ _ _ _ _ _ _ errors => exact absurd errors he
  | finished producer | cancelled _ _ producer | failed _ _ _ _ producer => exact producer

theorem length_errors (h : Stage f cs e) : e.errors.length ≤ 1 := by
  cases h with
  | visiting _ _ _ _ _ _ errors | listing _ _ _ _ _ _ _ errors
  | publishing _ _ _ _ _ _ _ errors | finished _ _ _ errors =>
    exact errors ▸ Nat.zero_le 1
  | cancelled _ _ _ _ _ errors | failed _ _ _ _ _ _ _ _ _ errors => exact errors ▸ Nat.le_refl 1

theorem complete (h : Stage f cs e) (hp : e.stream.producer = .ended) (he : e.errors = []) :
    (∀ c ∈ cs, (f.listed c).isOk = true) ∧ e.published = f.full cs := by
  cases h with
  | visiting _ _ producer | listing _ _ _ producer | publishing _ _ _ producer =>
    rw [hp] at producer
    cases producer
  | finished _ good published => exact ⟨good, published⟩
  | cancelled _ _ _ _ _ errors | failed _ _ _ _ _ _ _ _ _ errors =>
    rw [he] at errors
    cases errors

theorem cancelled_of_mem (h : Stage f cs e) (he : .cancelled ∈ e.errors) : e.cancelled = true := by
  cases h with
  | visiting _ _ _ _ _ _ errors | listing _ _ _ _ _ _ _ errors
  | publishing _ _ _ _ _ _ _ errors | finished _ _ _ errors =>
    rw [errors] at he
    cases he
  | cancelled _ _ _ _ _ _ cancelled => exact cancelled
  | failed _ c _ x _ _ _ failure _ errors =>
    rw [errors, List.mem_singleton] at he
    exact absurd he.symm (Fleet.isPlain_of_listed failure).2

/-- A failure that is no cancellation is that of the first center that fails. -/
theorem of_failure (h : Stage f cs e) (distinct : (cs.map (·.host)).Nodup) {x : Error}
    (hx : x ∈ e.errors) (hc : x ≠ .cancelled) : e.published = f.full cs ∧
      ∃ before c after, cs = before ++ c :: after ∧
        (∀ d ∈ before, (f.listed d).isOk = true) ∧ f.listed c = .error x ∧
        ∀ d ∈ after, e.net.planes.get? d.host = f.get? d.host := by
  cases h with
  | visiting _ _ _ _ _ _ errors | listing _ _ _ _ _ _ _ errors
  | publishing _ _ _ _ _ _ _ errors | finished _ _ _ errors =>
    rw [errors] at hx
    cases hx
  | cancelled _ _ _ _ _ errors =>
    rw [errors, List.mem_singleton] at hx
    exact absurd hx hc
  | failed before c after y _ split good failure published errors contacts =>
    rw [errors, List.mem_singleton] at hx
    subst hx
    refine ⟨published, before, c, after, split, good, failure, fun d hd => contacts.rest _ ?_⟩
    -- The hosts of the centers that were met are others.
    rw [split, List.append_cons, List.map_append, List.nodup_append] at distinct
    exact fun b hb => distinct.2.2 _ (List.mem_map_of_mem hb) _ (List.mem_map_of_mem hd)

theorem contacts (h : Stage f cs e) :
    ∃ met unmet, cs = met ++ unmet ∧ f.Contacts met e.net.planes := by
  cases h with
  | visiting met unmet _ split _ _ _ contacts | publishing met unmet _ _ split _ _ _ contacts
  | cancelled met unmet _ split _ _ _ contacts => exact ⟨met, unmet, split, contacts⟩
  | listing seen c rest _ split _ _ _ contacts | failed seen c rest _ _ split _ _ _ _ contacts =>
    exact ⟨seen ++ [c], rest, by rw [split, List.append_cons], contacts⟩
  | finished _ _ _ _ contacts => exact ⟨cs, [], (List.append_nil cs).symm, contacts⟩

end Stage

structure Holds (f : Fleet) (cs : List Center.Config) (e : Enumeration Fleet) : Prop where
  heard : e.stream.heard = true
  room : 0 < e.stream.room
  proper : e.net.Proper
  registers : e.net.Registers cs
  stage : Stage f cs e

theorem errors_fail (h : e.errors = []) (x : Error) (n : Network Fleet) :
    errors { e with stream := e.stream.fail x, net := n } = [x] := by
  rw [errors, (List.append_eq_nil_iff.1 h).1]
  rfl

variable {seen rest : List Center.Config} {c : Center.Config}

theorem Stage.cancel (split : cs = seen ++ rest) {done more : List Center.Config}
    (hd : seen = done ++ more) (good : ∀ c ∈ done, (f.listed c).isOk = true)
    (published : e.published <+: done.flatMap f.offered) (errors : e.errors = [])
    (contacts : f.Contacts seen e.net.planes) (hc : e.cancelled = true) :
    Stage f cs { e with stream := e.stream.fail .cancelled } := by
  refine .cancelled seen rest rfl split ?_ (errors_fail errors .cancelled e.net) hc contacts
  have full : f.full cs = done.flatMap f.offered ++ f.full (more ++ rest) := by
    rw [split, hd, List.append_assoc, Fleet.full_append good]
  rw [full]
  exact published.trans (List.prefix_append _ _)

theorem Stage.connect (split : cs = seen ++ c :: rest) (distinct : (cs.map (·.host)).Nodup)
    (good : ∀ c ∈ seen, (f.listed c).isOk = true) (published : e.published = seen.flatMap f.offered)
    (errors : e.errors = []) (contacts : f.Contacts seen e.net.planes)
    (registers : e.net.Registers cs) {r : Except Error Unit} {n : Network Fleet}
    (hx : (Network.connect c.host).run.run e.net = (r, n)) :
    n.Registers cs ∧ Stage f cs (match r with
      | .ok _ => { e with stream := { e.stream with producer := .listing c rest }, net := n }
      | .error x => { e with stream := e.stream.fail x, net := n }) := by
  have hm : c ∈ cs := split ▸ List.mem_append_right _ List.mem_cons_self
  have fresh : ∀ d ∈ seen, d.host ≠ c.host := by
    rw [split, List.map_append, List.nodup_append] at distinct
    exact fun d hd he =>
      distinct.2.2 _ (List.mem_map_of_mem hd) _ List.mem_cons_self he
  obtain ⟨hn, planes, result, session⟩ := registers.connect hm hx
  have after : f.Contacts (seen ++ [c]) n.planes := planes ▸ contacts.connect fresh
  have here : e.net.planes.get? c.host = f.get? c.host := contacts.rest c.host fresh
  rw [Fleet.run_connect, here] at result
  refine ⟨hn, ?_⟩
  cases hp : f.get? c.host with
  | none =>
    rw [hp] at result
    obtain rfl := result.symm
    exact .failed seen c rest _ rfl split good (Fleet.listed_of_none hp)
      (published.trans (split ▸ Fleet.full_of_error good (Fleet.listed_of_none hp)).symm)
      (errors_fail errors _ n) after
  | some p =>
    rw [hp] at result
    cases hc : (p.connect c.host).1 with
    | error x =>
      simp only [hc] at result
      obtain rfl := result.symm
      have failure : f.listed c = .error x := by
        rw [Fleet.listed_of_some hp, hc]
        rfl
      exact .failed seen c rest x rfl split good failure
        (published.trans (split ▸ Fleet.full_of_error good failure).symm)
        (errors_fail errors x n) after
    | ok u =>
      simp only [hc] at result
      obtain rfl := result.symm
      exact .listing seen c rest rfl split good published errors after ⟨p, hp, hc⟩ (session rfl)

theorem Stage.list (split : cs = seen ++ c :: rest) (good : ∀ c ∈ seen, (f.listed c).isOk = true)
    (published : e.published = seen.flatMap f.offered) (errors : e.errors = [])
    (contacts : f.Contacts (seen ++ [c]) e.net.planes)
    (connected : ∃ p, f.get? c.host = some p ∧ (p.connect c.host).1 = .ok ())
    (session : ∃ hd s, e.net.centers.get? c.host = some hd ∧ hd.session = some s)
    (proper : e.net.Proper) (registers : e.net.Registers cs)
    {r : Except Error (List Datacenter)} {n : Network Fleet}
    (hx : (Network.datacenters c).run.run e.net = (r, n)) :
    n.Registers cs ∧ Stage f cs (match r with
      | .ok ds => { e with stream := { e.stream with producer := .publishing ds rest }, net := n }
      | .error x => { e with stream := e.stream.fail x, net := n }) := by
  obtain ⟨p, hp, hc⟩ := connected
  obtain ⟨hd, s, hh, hs⟩ := session
  have still := contacts.alike c.host
  rw [hp] at still
  obtain ⟨q, hq, hqp⟩ := Option.map_eq_some_iff.1 still
  obtain ⟨result, centers, q', planes, hq', calls⟩ :=
    Network.datacenters_of_session proper hh hs hq
  rw [hx] at result centers planes
  dsimp only at result centers planes
  -- What a plane answers does not depend on what it counts.
  have answer : (q.finish .datacenters).1 = (p.finish .datacenters).1 := by
    have failures : q.still.failures = p.still.failures := congrArg Plane.failures hqp
    have offered : q.still.datacenters = p.still.datacenters := congrArg Plane.datacenters hqp
    change q.failures = p.failures at failures
    change q.datacenters = p.datacenters at offered
    simp only [Plane.finish, failures, offered]
  have listed : f.listed c = r := by
    rw [result, answer, Fleet.listed_of_some hp, hc]
    rfl
  have after : f.Contacts (seen ++ [c]) n.planes :=
    planes ▸ contacts.put (List.mem_append_right _ List.mem_cons_self) hq hq' calls
  refine ⟨fun d hd => centers ▸ registers d hd, ?_⟩
  cases r with
  | error x =>
    exact .failed seen c rest x rfl split good listed
      (published.trans (split ▸ Fleet.full_of_error good listed).symm) (errors_fail errors x n) after
  | ok ds =>
    refine .publishing (seen ++ [c]) rest ds rfl (by rw [split, List.append_cons]) ?_ ?_ errors after
    · refine List.forall_mem_append.2 ⟨good, List.forall_mem_singleton.2 ?_⟩
      rw [listed]
      rfl
    · rw [List.flatMap_append, List.flatMap_singleton, ← Fleet.offered_of_listed listed]
      exact congrArg (· ++ ds) published

/-- Every step of the producer leads from one stage to another. -/
theorem Holds.produce (h : Holds f cs e) (distinct : (cs.map (·.host)).Nodup)
    (hx : e.step .produce = some e') : Holds f cs e' := by
  obtain ⟨⟨t, n⟩, ht, rfl⟩ := Option.map_eq_some_iff.1 hx
  obtain ⟨heard, room, proper, registers, stage⟩ := h
  unfold Stream.step at ht
  cases stage with
  | visiting seen rest producer split good published errors contacts =>
    rw [producer] at ht
    cases rest with
    | nil =>
      obtain ⟨rfl, rfl⟩ := Prod.mk.inj (Option.some.inj ht)
      rw [List.append_nil] at split
      subst split
      exact ⟨heard, room, proper, registers, .finished rfl good
        (published.trans (Fleet.full_of_isOk good).symm) errors contacts⟩
    | cons c rest =>
      dsimp only at ht
      split at ht
      · obtain ⟨rfl, rfl⟩ := Prod.mk.inj (Option.some.inj ht)
        exact ⟨heard, room, proper, registers, .cancel split (List.append_nil _).symm good
          (published ▸ List.prefix_rfl) errors contacts ‹_›⟩
      · have shown := Network.looked_connect ⟨proper, fun _ => rfl⟩ c.host
        cases hr : (Network.connect c.host).run.run e.net with
        | mk r n' =>
          obtain ⟨registers', stage⟩ :=
            Stage.connect split distinct good published errors contacts registers hr
          rw [hr] at ht shown
          cases r with
          | ok u | error x =>
            obtain ⟨rfl, rfl⟩ := Prod.mk.inj (Option.some.inj ht)
            exact ⟨heard, room, shown.shows.proper, registers', stage⟩
  | listing seen c rest producer split good published errors contacts connected session =>
    rw [producer] at ht
    dsimp only at ht
    split at ht
    · obtain ⟨rfl, rfl⟩ := Prod.mk.inj (Option.some.inj ht)
      exact ⟨heard, room, proper, registers, .cancel (by rw [split, List.append_cons]) rfl good
        (published ▸ List.prefix_rfl) errors contacts ‹_›⟩
    · have shown := Network.looked_datacenters ⟨proper, fun _ => rfl⟩ c
      cases hr : (Network.datacenters c).run.run e.net with
      | mk r n' =>
        obtain ⟨registers', stage⟩ :=
          Stage.list split good published errors contacts connected session proper registers hr
        rw [hr] at ht shown
        cases r with
        | ok ds | error x =>
          obtain ⟨rfl, rfl⟩ := Prod.mk.inj (Option.some.inj ht)
          exact ⟨heard, room, shown.shows.proper, registers', stage⟩
  | publishing seen rest ds producer split good published errors contacts =>
    rw [producer] at ht
    cases ds with
    | nil =>
      obtain ⟨rfl, rfl⟩ := Prod.mk.inj (Option.some.inj ht)
      exact ⟨heard, room, proper, registers, .visiting seen rest rfl split good
        ((List.append_nil _).symm.trans published) errors contacts⟩
    | cons d ds =>
      dsimp only at ht
      split at ht
      · obtain ⟨rfl, rfl⟩ := Prod.mk.inj (Option.some.inj ht)
        exact ⟨heard, room, proper, registers, .cancel split (List.append_nil _).symm good
          (published ▸ List.prefix_append _ _) errors contacts ‹_›⟩
      · rw [heard] at ht
        simp only [Bool.not_true, Bool.false_eq_true, ↓reduceIte] at ht
        split at ht
        · obtain ⟨rfl, rfl⟩ := Prod.mk.inj (Option.some.inj ht)
          refine ⟨rfl, room, proper, registers,
            .publishing seen rest ds rfl split good ?_ errors contacts⟩
          rw [← published]
          simp [Enumeration.published]
        · cases ht
  | finished producer | cancelled _ _ producer | failed _ _ _ _ producer =>
    rw [producer] at ht
    cases ht

theorem Holds.step (h : Holds f cs e) (distinct : (cs.map (·.host)).Nodup)
    (hx : e.step m = some e') : Holds f cs e' := by
  by_cases hm : m = .produce
  · subst hm
    exact h.produce distinct hx
  · obtain ⟨-, -, hn, hs, -⟩ := of_step_other hx hm
    have heard := congrArg Stream.heard hs
    have room := congrArg Stream.room hs
    exact ⟨heard.trans h.heard, Nat.lt_of_lt_of_eq h.room room.symm, hn ▸ h.proper,
      hn ▸ h.registers, h.stage.other hx hm⟩

theorem Holds.follow (h : Holds f cs e) (distinct : (cs.map (·.host)).Nodup)
    (hx : e.follow ms = some e') : Holds f cs e' := by
  induction ms generalizing e with
  | nil => exact Option.some.inj hx ▸ h
  | cons m ms ih =>
    obtain ⟨u, hu, hx⟩ := Option.bind_eq_some_iff.1 hx
    exact ih (h.step distinct hu) hx

theorem holds_start {n : Network Fleet} (hn : n.Proper) (hr : n.Registers cs) (room : Nat) :
    Holds n.planes cs (start cs room n) where
  heard := rfl
  room := Nat.lt_of_lt_of_le Nat.one_pos (Nat.le_max_right room 1)
  proper := hn
  registers := hr
  stage := .visiting [] cs rfl rfl nofun rfl rfl (Fleet.contacts_nil n.planes)

/-- Nobody waits for ever: the producer stops for a full queue only. -/
theorem Holds.ended_of_stuck (h : Holds f cs e) (hp : e.step .produce = none)
    (ht : e.step .take = none) : e.stream.producer = .ended ∧ e.stream.queue = [] := by
  have queue : e.stream.queue = [] := by
    simp only [Enumeration.step] at ht
    split at ht
    · assumption
    · cases ht
  have hp := Option.map_eq_none_iff.1 hp
  refine ⟨?_, queue⟩
  unfold Stream.step at hp
  split at hp
  · cases hp
  · split at hp
    · cases hp
    · split at hp <;> cases hp
  · split at hp
    · cases hp
    · split at hp <;> cases hp
  · cases hp
  · rw [h.heard, queue] at hp
    simp only [Bool.not_true, Bool.false_eq_true, ↓reduceIte, List.length_nil, h.room] at hp
    split at hp <;> cases hp
  · assumption

/-- The datacenters that an enumeration of `cs` publishes are those of the centers before the first
that fails, in order and as far as it has come. There is at most one failure, and nothing is
published after it. An enumeration that ends without one has published everything. A failure is that
of the first center that fails, comes after everything before it, and leaves the centers after it
alone, unless the token was cancelled. No center is connected to twice. -/
theorem delivers {n : Network Fleet} (hn : n.Proper) (hr : n.Registers cs)
    (distinct : (cs.map (·.host)).Nodup) {room : Nat}
    (h : (start cs room n).follow ms = some e) :
    e.published <+: n.planes.full cs ∧
      e.errors.length ≤ 1 ∧
      (e.errors ≠ [] → ∀ ms' e', e.follow ms' = some e' →
        e'.published = e.published ∧ e'.errors = e.errors) ∧
      (e.stream.producer = .ended → e.errors = [] →
        (∀ c ∈ cs, (n.planes.listed c).isOk = true) ∧ e.published = n.planes.full cs) ∧
      (∀ x ∈ e.errors, x ≠ .cancelled → e.published = n.planes.full cs ∧
        ∃ before c after, cs = before ++ c :: after ∧
          (∀ d ∈ before, (n.planes.listed d).isOk = true) ∧ n.planes.listed c = .error x ∧
          ∀ d ∈ after, e.net.planes.get? d.host = n.planes.get? d.host) ∧
      (.cancelled ∈ e.errors → .cancel ∈ ms) ∧
      ∃ met unmet, cs = met ++ unmet ∧ n.planes.Contacts met e.net.planes := by
  have hs := ((holds_start hn hr room).follow distinct h).stage
  refine ⟨hs.isPrefix, hs.length_errors, fun he ms' e' h' => ?_, hs.complete, fun x hx hc => ?_,
    fun hc => ?_, hs.contacts⟩
  · exact follow_ended (hs.ended_of_errors he) h'
  · exact hs.of_failure distinct hx hc
  · exact cancel_mem_of_follow h rfl (hs.cancelled_of_mem hc)

namespace Pair

def planes : Fleet := .ofPlanes [
  { host := "a", datacenters := [{ id := "dc-1", name := "one" }, { id := "dc-2", name := "two" }] },
  { host := "b", failures := { datacenterList := true } }]

def center (host : String) : Center.Config :=
  { host := host, port := 443, user := "", password := "",
    paths := if host = "a" then ["two"] else [] }

def network : Network Fleet :=
  (Network.register { planes := planes } (center "a")).register (center "b")

def moves : List Move :=
  [.produce, .produce, .produce, .produce, .produce, .take, .produce, .hear]

theorem delivers_pair : ∃ e, (start [center "a", center "b"] 0 network).follow moves = some e ∧
    e.told = [.rest 500 "datacenter listing failed"] ∧ e.taken = [⟨"dc-2", "two", "a"⟩] ∧
    e.published = planes.full [center "a", center "b"] := by
  have proper : network.Proper :=
    ((Network.proper_of_planes planes).register (center "a")).register (center "b")
  have registers : network.Registers [center "a", center "b"] := fun c hc => by
    obtain rfl | hc := List.mem_cons.1 hc
    · rfl
    · obtain rfl := List.mem_singleton.1 hc
      rfl
  have told : ((start [center "a", center "b"] 0 network).follow moves).map (·.told) =
      some [.rest 500 "datacenter listing failed"] := by decide +kernel
  have taken : ((start [center "a", center "b"] 0 network).follow moves).map (·.taken) =
      some [⟨"dc-2", "two", "a"⟩] := by decide +kernel
  obtain ⟨e, he, ht⟩ := Option.map_eq_some_iff.1 told
  rw [he] at taken
  obtain ⟨-, -, -, -, failed, -⟩ := delivers proper registers (by decide) he
  have mem : .rest 500 "datacenter listing failed" ∈ e.errors :=
    List.mem_append_left _ (ht ▸ List.mem_singleton_self _)
  exact ⟨e, he, ht, Option.some.inj taken, (failed _ mem nofun).1⟩

end Pair

end Enumeration

namespace Listing

variable {R : Type} [Remote R]

def enumeration (cancelled : Bool) (l : Listing R) : Enumeration R where
  stream := l.stream
  net := l.net
  taken := l.taken
  cancelled := cancelled

variable {cancelled : Bool} {l m : Listing R}

theorem move_of_step (hl : l.wanted = none) (h : l.step cancelled = some m) :
    m.wanted = none ∧
      ∃ x, (l.enumeration cancelled).step x = some (m.enumeration cancelled) := by
  unfold step at h
  split at h
  · rename_i d ds hq
    have hm := Option.some.inj h
    rw [leave, if_neg (by simp [hl])] at hm
    subst hm
    refine ⟨hl, .take, ?_⟩
    simp only [Enumeration.step, enumeration, hq]
  · obtain ⟨⟨s, n⟩, hs, rfl⟩ := Option.map_eq_some_iff.1 h
    refine ⟨hl, .produce, ?_⟩
    simp only [Enumeration.step, enumeration, hs]
    rfl

theorem stuck_take (h : l.step cancelled = none) :
    (l.enumeration cancelled).step .take = none := by
  unfold step at h
  split at h
  · cases h
  · rename_i hq
    simp only [Enumeration.step, enumeration, hq]

theorem stuck_produce (h : l.step cancelled = none) :
    (l.enumeration cancelled).step .produce = none := by
  unfold step at h
  split at h
  · cases h
  · exact Option.map_eq_none_iff.2 (Option.map_eq_none_iff.1 h)

theorem follow_run (cancelled : Bool) (l : Listing R) (hl : l.wanted = none) :
    (l.run cancelled).step cancelled = none ∧ ∃ ms,
      (l.enumeration cancelled).follow ms = some ((l.run cancelled).enumeration cancelled) := by
  fun_induction Listing.run cancelled l with
  | case1 l h => exact ⟨h, [], rfl⟩
  | case2 l m h ih =>
    obtain ⟨hm, x, hx⟩ := move_of_step hl h
    obtain ⟨stuck, ms, hf⟩ := ih hm
    exact ⟨stuck, x :: ms, Option.bind_eq_some_iff.2 ⟨_, hx, hf⟩⟩

end Listing

namespace Network

variable {n : Network Fleet}

theorem registers_centers (hn : n.Proper) (distinct : (n.centers.map (·.1)).Nodup) :
    n.Registers (n.centers.map (·.2.config)) ∧
      ((n.centers.map (·.2.config)).map (·.host)).Nodup := by
  have here : ∀ p ∈ n.centers, n.centers.get? p.1 = some p.2 :=
    fun p hp => Table.get?_of_mem distinct hp
  have host : ∀ p ∈ n.centers, p.2.config.host = p.1 := fun p hp => (hn _ _ (here p hp)).1
  constructor
  · intro c hc
    obtain ⟨p, hp, rfl⟩ := List.mem_map.1 hc
    rw [host p hp, here p hp, Option.map_some]
  · rw [List.map_map]
    rwa [List.map_congr_left (g := (·.1)) host]

/-- A reader who wants everything and whom nobody stops gets everything before the first failure,
and that failure. -/
theorem listing_delivers (hn : n.Proper) (distinct : (n.centers.map (·.1)).Nodup) (room : Nat) :
    let cs := n.centers.map (·.2.config)
    let l := n.listing room none false
    l.taken = n.planes.full cs ∧
      (l.stream.fault = none ∧ (∀ c ∈ cs, (n.planes.listed c).isOk = true) ∨
        ∃ before c after x, cs = before ++ c :: after ∧
          (∀ d ∈ before, (n.planes.listed d).isOk = true) ∧ n.planes.listed c = .error x ∧
          l.stream.fault = some x) := by
  intro cs l
  obtain ⟨hr, hosts⟩ := registers_centers hn distinct
  obtain ⟨stuck, ms, hf⟩ := Listing.follow_run false
    (Listing.leave { stream := .ofCenters cs room, net := n, wanted := none }) rfl
  have holds := (Enumeration.holds_start hn hr room).follow hosts hf
  obtain ⟨ended, queue⟩ : l.stream.producer = .ended ∧ l.stream.queue = [] :=
    holds.ended_of_stuck (Listing.stuck_produce stuck) (Listing.stuck_take stuck)
  have taken : l.taken = (l.enumeration false).published := by
    show l.taken = l.taken ++ l.stream.queue
    rw [queue, List.append_nil]
  have fault : (l.enumeration false).errors = l.stream.fault.toList := List.nil_append _
  rw [taken]
  have stage : Enumeration.Stage n.planes cs (l.enumeration false) := holds.stage
  cases stage with
  | visiting _ _ producer | listing _ _ _ producer | publishing _ _ _ producer =>
    cases ended.symm.trans producer
  | finished _ good published errors =>
    exact ⟨published, .inl ⟨Option.toList_eq_nil_iff.1 (fault.symm.trans errors), good⟩⟩
  | cancelled _ _ _ _ _ _ cancelled => cases cancelled
  | failed before c after x _ split good failure published errors =>
    refine ⟨published, .inr ⟨before, c, after, x, split, good, failure, ?_⟩⟩
    exact Option.toList_eq_singleton_iff.1 (fault.symm.trans errors)

end Network

end StorageDriver
