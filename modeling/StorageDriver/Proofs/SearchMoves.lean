import StorageDriver.Search.Run

namespace StorageDriver

def Producer.isInterruptible : Producer → Bool
  | .visiting (_ :: _) | .listing .. | .publishing (_ :: _) _ => true
  | _ => false

namespace Search

variable {R : Type}

def Worker.isInterruptible : Worker → Bool
  | .idle | .opening _ | .waiting .. => true
  | _ => false

/-- What a search learns from a call it makes, and what its workers report. -/
inductive Event
  | connected (c : Center.Config) (r : Except Error Unit)
  | listed (c : Center.Config) (r : Except Error (List Datacenter))
  | opened (d : Datacenter) (r : Except Error Session)
  | searched (d : Datacenter) (r : Except Error (List VmInfo))
  | reported (r : Except Error VirtualMachine)

variable [Remote R]

namespace State

/-- The calls that a move makes in `s`, with their answers, and the report it delivers. -/
def events (s : State R) : Move → List Event
  | .producer =>
    if s.cancelled then [] else
      match s.stream.producer with
      | .visiting (c :: _) => [.connected c ((Network.connect c.host).run.run s.net).1]
      | .listing c _ => [.listed c ((Network.datacenters c).run.run s.net).1]
      | _ => []
  | .worker i =>
    match s.workers[i]? with
    | some (.opening d) =>
      if s.cancelled then [] else [.opened d ((Network.client d.host).run.run s.net).1]
    | some (.waiting d session _) =>
      if s.cancelled then []
      else [.searched d ((Network.finish session (.machines d.id)).run.run s.net).1]
    | some (.reporting r) => [.reported r]
    | _ => []
  | _ => []

def wait (s : State R) (time : Nat) : State R :=
  { s with net := { s.net with clock := max s.net.clock time } }

/-- The state after moves made in any order and at any time, with all that was learned. -/
def follow (s : State R) : List (Nat × Move) → Option (State R × List Event)
  | [] => some (s, [])
  | (time, m) :: ms =>
    ((s.wait time).step m).bind fun t =>
      (t.follow ms).map fun (u, es) => (u, (s.wait time).events m ++ es)

end State

/-- All that a move can do. -/
inductive Change (s : State R) : Move → List Event → State R → Prop
  | exhaust (h : s.stream.producer = .visiting []) :
    Change s .producer [] { s with stream := { s.stream with producer := .ended } }
  | stop (hc : s.cancelled = true) (h : s.stream.producer.isInterruptible = true) :
    Change s .producer [] { s with stream := s.stream.fail .cancelled }
  | connect {c cs n} (hc : s.cancelled = false) (h : s.stream.producer = .visiting (c :: cs))
      (hn : (Network.connect c.host).run.run s.net = (.ok (), n)) :
    Change s .producer [.connected c (.ok ())]
      { s with net := n, stream := { s.stream with producer := .listing c cs } }
  | refuse {c cs e n} (hc : s.cancelled = false) (h : s.stream.producer = .visiting (c :: cs))
      (hn : (Network.connect c.host).run.run s.net = (.error e, n)) :
    Change s .producer [.connected c (.error e)] { s with net := n, stream := s.stream.fail e }
  | list {c cs ds n} (hc : s.cancelled = false) (h : s.stream.producer = .listing c cs)
      (hn : (Network.datacenters c).run.run s.net = (.ok ds, n)) :
    Change s .producer [.listed c (.ok ds)]
      { s with net := n, stream := { s.stream with producer := .publishing ds cs } }
  | unlist {c cs e n} (hc : s.cancelled = false) (h : s.stream.producer = .listing c cs)
      (hn : (Network.datacenters c).run.run s.net = (.error e, n)) :
    Change s .producer [.listed c (.error e)] { s with net := n, stream := s.stream.fail e }
  | visit {cs} (h : s.stream.producer = .publishing [] cs) :
    Change s .producer [] { s with stream := { s.stream with producer := .visiting cs } }
  | unheard {d ds cs} (hc : s.cancelled = false) (h : s.stream.producer = .publishing (d :: ds) cs)
      (hh : s.stream.heard = false) :
    Change s .producer [] { s with stream := { s.stream with producer := .ended } }
  | publish {d ds cs} (hc : s.cancelled = false) (h : s.stream.producer = .publishing (d :: ds) cs)
      (hr : s.stream.queue.length < s.stream.room) :
    Change s .producer []
      { s with stream :=
        { s.stream with producer := .publishing ds cs, queue := s.stream.queue ++ [d] } }
  | quit {i w} (hc : s.cancelled = true) (hw : s.workers[i]? = some w)
      (h : w.isInterruptible = true) :
    Change s (.worker i) [] (s.put i .ended)
  | take {i d ds} (hc : s.cancelled = false) (hw : s.workers[i]? = some .idle)
      (hq : s.stream.queue = d :: ds) :
    Change s (.worker i) []
      ({ s with stream := { s.stream with queue := ds } }.put i (.opening d))
  | leave {i} (hc : s.cancelled = false) (hw : s.workers[i]? = some .idle)
      (hq : s.stream.queue = []) (he : s.stream.producer.hasEnded = true) :
    Change s (.worker i) [] (s.put i .ended)
  | open {i d session due n₁ n₂} (hc : s.cancelled = false)
      (hw : s.workers[i]? = some (.opening d))
      (hn : (Network.client d.host).run.run s.net = (.ok session, n₁))
      (hs : (Network.start session (.machines d.id)).run n₁ = (due, n₂)) :
    Change s (.worker i) [.opened d (.ok session)]
      ({ s with net := n₂ }.put i (.waiting d session due))
  | unopen {i d e n} (hc : s.cancelled = false) (hw : s.workers[i]? = some (.opening d))
      (hn : (Network.client d.host).run.run s.net = (.error e, n)) :
    Change s (.worker i) [.opened d (.error e)] ({ s with net := n }.put i (.after (.error e)))
  | look {i d session due ms n} (hc : s.cancelled = false)
      (hw : s.workers[i]? = some (.waiting d session due))
      (hn : (Network.finish session (.machines d.id)).run.run s.net = (.ok ms, n)) :
    Change s (.worker i) [.searched d (.ok ms)]
      ({ s with net := n }.put i (.after (s.query.answer d ms)))
  | miss {i d session due e n} (hc : s.cancelled = false)
      (hw : s.workers[i]? = some (.waiting d session due))
      (hn : (Network.finish session (.machines d.id)).run.run s.net = (.error e, n)) :
    Change s (.worker i) [.searched d (.error e)] ({ s with net := n }.put i (.after (.error e)))
  | report {i r} (hw : s.workers[i]? = some (.reporting r)) :
    Change s (.worker i) [.reported r] (s.report i r)
  | hearMatch {m rs} (hp : s.phase = .gathering) (hr : s.results = .ok m :: rs) :
    Change s .result []
      { s with results := rs, found := s.found <|> some m, cancelled := true }
  | hearFailure {e rs} (hp : s.phase = .gathering) (hr : s.results = .error e :: rs) :
    Change s .result [] { s.blame e with results := rs, cancelled := true }
  | gather (hp : s.phase = .gathering) (hr : s.results = [])
      (hw : s.workers.all Worker.hasEnded = true) :
    Change s .result [] { s with phase := .closing, cancelled := true }
  | hearFault {e} (hp : s.phase = .gathering) (hl : s.listening = true)
      (hf : s.stream.fault = some e) (he : e ≠ .cancelled) :
    Change s .fault []
      { { s with stream := { s.stream with fault := none } }.blame e with cancelled := true }
  | overhear (hp : s.phase = .gathering) (hl : s.listening = true)
      (hf : s.stream.fault = some .cancelled) :
    Change s .fault [] { s with stream := { s.stream with fault := none } }
  | deafen (hp : s.phase = .gathering) (hl : s.listening = true) (hf : s.stream.fault = none)
      (he : s.stream.producer.hasEnded = true) :
    Change s .fault [] { s with listening := false }
  | close (hp : s.phase = .closing) (he : s.stream.producer.hasEnded = true)
      (hf : s.listening = true → ∀ e, s.stream.fault = some e → e = .cancelled) :
    Change s .close [] { s with phase := .done }
  | closeFault {e} (hp : s.phase = .closing) (he : s.stream.producer.hasEnded = true)
      (hl : s.listening = true) (hf : s.stream.fault = some e) (hn : e ≠ .cancelled) :
    Change s .close [] { s.blame e with phase := .done }
  | abandon (ha : s.abandoned = false) (hp : s.phase ≠ .done) :
    Change s .abandon [] { s with abandoned := true, cancelled := true }

variable {s t : State R} {m : Move}

theorem change_of_produce (h : s.produce = some t) : Change s .producer (s.events .producer) t := by
  obtain ⟨⟨u, n⟩, hu, rfl⟩ := Option.map_eq_some_iff.1 h
  unfold Stream.step at hu
  split at hu
  · rename_i hp
    obtain ⟨rfl, rfl⟩ := Prod.mk.inj (Option.some.inj hu)
    have he : s.events .producer = [] := by simp [State.events, hp]
    rw [he]
    exact .exhaust hp
  · rename_i c cs hp
    split at hu
    · rename_i hc
      obtain ⟨rfl, rfl⟩ := Prod.mk.inj (Option.some.inj hu)
      have he : s.events .producer = [] := by simp [State.events, hc]
      rw [he]
      exact .stop hc (by simp [hp, Producer.isInterruptible])
    · rename_i hc
      have hc : s.cancelled = false := by simpa using hc
      have he : s.events .producer = [.connected c ((Network.connect c.host).run.run s.net).1] := by
        simp [State.events, hp, hc]
      split at hu <;> rename_i hn <;> obtain ⟨rfl, rfl⟩ := Prod.mk.inj (Option.some.inj hu) <;>
        rw [he, hn]
      · exact .connect hc hp hn
      · exact .refuse hc hp hn
  · rename_i c cs hp
    split at hu
    · rename_i hc
      obtain ⟨rfl, rfl⟩ := Prod.mk.inj (Option.some.inj hu)
      have he : s.events .producer = [] := by simp [State.events, hc]
      rw [he]
      exact .stop hc (by simp [hp, Producer.isInterruptible])
    · rename_i hc
      have hc : s.cancelled = false := by simpa using hc
      have he : s.events .producer = [.listed c ((Network.datacenters c).run.run s.net).1] := by
        simp [State.events, hp, hc]
      split at hu <;> rename_i hn <;> obtain ⟨rfl, rfl⟩ := Prod.mk.inj (Option.some.inj hu) <;>
        rw [he, hn]
      · exact .list hc hp hn
      · exact .unlist hc hp hn
  · rename_i cs hp
    obtain ⟨rfl, rfl⟩ := Prod.mk.inj (Option.some.inj hu)
    have he : s.events .producer = [] := by simp [State.events, hp]
    rw [he]
    exact .visit hp
  · rename_i d ds cs hp
    have he : s.events .producer = [] := by simp [State.events, hp]
    rw [he]
    split at hu
    · rename_i hc
      obtain ⟨rfl, rfl⟩ := Prod.mk.inj (Option.some.inj hu)
      exact .stop hc (by simp [hp, Producer.isInterruptible])
    · rename_i hc
      have hc : s.cancelled = false := by simpa using hc
      split at hu
      · rename_i hh
        obtain ⟨rfl, rfl⟩ := Prod.mk.inj (Option.some.inj hu)
        exact .unheard hc hp (by simpa using hh)
      · split at hu
        · rename_i hr
          obtain ⟨rfl, rfl⟩ := Prod.mk.inj (Option.some.inj hu)
          exact .publish hc hp hr
        · cases hu
  · cases hu

theorem change_of_act {i : Nat} {w : Worker} (hw : s.workers[i]? = some w)
    (h : s.act i w = some t) : Change s (.worker i) (s.events (.worker i)) t := by
  cases w with
  | idle =>
    have he : s.events (.worker i) = [] := by simp [State.events, hw]
    rw [he]
    change (if s.cancelled then some (s.put i .ended) else s.take i) = some t at h
    split at h
    · rename_i hc
      obtain rfl := Option.some.inj h
      exact .quit hc hw rfl
    · rename_i hc
      have hc : s.cancelled = false := by simpa using hc
      unfold State.take at h
      split at h
      · obtain rfl := Option.some.inj h
        exact .take hc hw ‹_›
      · split at h
        · obtain rfl := Option.some.inj h
          exact .leave hc hw ‹_› ‹_›
        · cases h
  | opening d =>
    obtain rfl := Option.some.inj h
    split
    · rename_i hc
      have he : s.events (.worker i) = [] := by simp [State.events, hw, hc]
      rw [he]
      exact .quit hc hw rfl
    · rename_i hc
      have hc : s.cancelled = false := by simpa using hc
      have he : s.events (.worker i) = [.opened d ((Network.client d.host).run.run s.net).1] := by
        simp [State.events, hw, hc]
      rw [he]
      unfold State.begin
      split <;> rename_i hn <;> rw [hn]
      · exact .open hc hw hn rfl
      · exact .unopen hc hw hn
  | waiting d session due =>
    obtain rfl := Option.some.inj h
    split
    · rename_i hc
      have he : s.events (.worker i) = [] := by simp [State.events, hw, hc]
      rw [he]
      exact .quit hc hw rfl
    · rename_i hc
      have hc : s.cancelled = false := by simpa using hc
      have he : s.events (.worker i) =
          [.searched d ((Network.finish session (.machines d.id)).run.run s.net).1] := by
        simp [State.events, hw, hc]
      rw [he]
      unfold State.finish
      split <;> rename_i hn <;> rw [hn]
      · exact .look hc hw hn
      · exact .miss hc hw hn
  | reporting r =>
    obtain rfl := Option.some.inj h
    have he : s.events (.worker i) = [.reported r] := by simp [State.events, hw]
    rw [he]
    exact .report hw
  | ended => cases h

theorem change_of_step (h : s.step m = some t) : Change s m (s.events m) t := by
  cases m with
  | producer => exact change_of_produce h
  | worker i =>
    obtain ⟨w, hw, ht⟩ := Option.bind_eq_some_iff.1 h
    exact change_of_act hw ht
  | result =>
    simp only [State.step, State.hearResult] at h
    split at h
    · rename_i hp
      split at h
      · obtain rfl := Option.some.inj h
        exact .hearMatch hp ‹_›
      · obtain rfl := Option.some.inj h
        exact .hearFailure hp ‹_›
      · split at h
        · obtain rfl := Option.some.inj h
          exact .gather hp ‹_› ‹_›
        · cases h
    · cases h
  | fault =>
    simp only [State.step, State.hearFault] at h
    split at h
    · rename_i hp
      obtain ⟨hp, hl⟩ := hp
      split at h
      · rename_i e hf
        obtain rfl := Option.some.inj h
        by_cases he : e = .cancelled
        · subst he
          rw [if_pos rfl]
          exact .overhear hp hl hf
        · rw [if_neg he]
          exact .hearFault hp hl hf he
      · split at h
        · obtain rfl := Option.some.inj h
          exact .deafen hp hl ‹_› ‹_›
        · cases h
    · cases h
  | close =>
    simp only [State.step] at h
    split at h
    · rename_i hp
      obtain rfl := Option.some.inj h
      unfold State.close
      split
      · rename_i e hl hf
        by_cases hn : e = .cancelled
        · rw [if_pos hn]
          exact .close hp.1 hp.2 fun _ e' he => Option.some.inj (he.symm.trans hf) ▸ hn
        · rw [if_neg hn]
          exact .closeFault hp.1 hp.2 hl hf hn
      · rename_i hx
        exact .close hp.1 hp.2 fun hl e he => absurd he (hx e hl)
    · cases h
  | abandon =>
    simp only [State.step] at h
    split at h
    · cases h
    · rename_i hn
      obtain rfl := Option.some.inj h
      obtain ⟨ha, hp⟩ := not_or.1 hn
      exact .abandon (by simpa using ha) hp

omit [Remote R] in
theorem State.wait_zero (s : State R) : s.wait 0 = s := by
  unfold State.wait
  rw [Nat.max_eq_left (Nat.zero_le _)]

theorem step_of_next {giveUp : Option Nat} (h : s.next giveUp = some t) :
    ∃ time m, (s.wait time).step m = some t := by
  unfold State.next at h
  split at h
  · rename_i u hu
    obtain ⟨m, -, hm⟩ := List.exists_of_findSome?_eq_some hu
    exact ⟨0, m, by rw [State.wait_zero, hm, h]⟩
  · obtain ⟨⟨due, m⟩, -, hm⟩ := Option.bind_eq_some_iff.1 h
    exact ⟨due, m, hm⟩

/-- A search that is left to itself makes moves like any other. -/
theorem exists_follow_run (giveUp : Option Nat) (s : State R) :
    ∃ ms es, s.follow ms = some (s.run giveUp, es) := by
  fun_induction State.run giveUp s with
  | case1 s hs => exact ⟨[], [], rfl⟩
  | case2 s t hs ih =>
    obtain ⟨time, m, hm⟩ := step_of_next hs
    obtain ⟨ms, es, hf⟩ := ih
    refine ⟨(time, m) :: ms, (s.wait time).events m ++ es, ?_⟩
    rw [State.follow, hm, Option.bind_some, hf]
    rfl

/-- What `change` keeps from each state to the next, `follow` keeps. -/
theorem follow_induction {P : List Event → State R → Prop} {s : State R} (start : P [] s)
    (wait : ∀ es u time, P es u → P es (u.wait time))
    (change : ∀ es fs m u v, P es u → Change u m fs v → P (es ++ fs) v)
    {ms : List (Nat × Move)} {t : State R} {es : List Event} (h : s.follow ms = some (t, es)) :
    P es t := by
  suffices ∀ ds u, P ds u → u.follow ms = some (t, es) → P (ds ++ es) t from this [] s start h
  clear start h
  induction ms generalizing es with
  | nil =>
    intro ds u hu hf
    obtain ⟨rfl, rfl⟩ := Prod.mk.inj (Option.some.inj hf)
    simpa using hu
  | cons tm ms ih =>
    obtain ⟨time, m⟩ := tm
    intro ds u hu hf
    simp only [State.follow, Option.bind_eq_some_iff, Option.map_eq_some_iff] at hf
    obtain ⟨v, hv, ⟨w, fs⟩, hw, he⟩ := hf
    obtain ⟨rfl, rfl⟩ := Prod.mk.inj he
    rw [← List.append_assoc]
    exact ih _ v (change _ _ _ _ _ (wait _ _ time hu) (change_of_step hv)) hw

end Search

end StorageDriver
