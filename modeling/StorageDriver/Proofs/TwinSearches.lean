import StorageDriver.Proofs.Enumeration
import StorageDriver.Proofs.NodeCache

namespace StorageDriver

/-- Networks that `N` has side by side answer alike, the second `δ` later than the first. `view` is
what matters of a configuration. -/
structure Network.Twins {R : Type} [Remote R] (view : Center.Config → Center.Config) (δ : Nat)
    (N : Network R → Network R → Prop) : Prop where
  configs : ∀ {n m}, N n m →
    (n.centers.map (·.2.config)).map view = (m.centers.map (·.2.config)).map view
  clock : ∀ {n m}, N n m → m.clock = n.clock + δ
  wait : ∀ {n m}, N n m → ∀ time,
    N { n with clock := max n.clock time } { m with clock := max m.clock (time + δ) }
  connect : ∀ {n m}, N n m → ∀ {c c'}, view c = view c' →
    Agree N ((Network.connect c.host).run.run n) ((Network.connect c'.host).run.run m)
  datacenters : ∀ {n m}, N n m → ∀ {c c'}, view c = view c' →
    Agree N ((Network.datacenters c).run.run n) ((Network.datacenters c').run.run m)
  client : ∀ {n m}, N n m → ∀ host,
    Agree N ((Network.client host).run.run n) ((Network.client host).run.run m)
  start : ∀ {n m}, N n m → ∀ s id,
    ((Network.start s (.machines id)).run m).1 = ((Network.start s (.machines id)).run n).1 + δ ∧
      N ((Network.start s (.machines id)).run n).2 ((Network.start s (.machines id)).run m).2
  finish : ∀ {n m}, N n m → ∀ s id, Agree N ((Network.finish s (.machines id)).run.run n)
    ((Network.finish s (.machines id)).run.run m)

variable {R : Type} {view : Center.Config → Center.Config} {δ : Nat}
  {N : Network R → Network R → Prop}

/-- Both are at the same point of the same work, as far as can be seen. -/
inductive Producer.Beside (view : Center.Config → Center.Config) : Producer → Producer → Prop
  | visiting {cs cs' : List Center.Config} (h : cs.map view = cs'.map view) :
    Beside view (.visiting cs) (.visiting cs')
  | listing {c c' : Center.Config} {cs cs' : List Center.Config} (hc : view c = view c')
      (h : cs.map view = cs'.map view) : Beside view (.listing c cs) (.listing c' cs')
  | publishing (ds : List Datacenter) {cs cs' : List Center.Config}
      (h : cs.map view = cs'.map view) : Beside view (.publishing ds cs) (.publishing ds cs')
  | ended : Beside view .ended .ended

theorem Producer.Beside.hasEnded {p p' : Producer} (h : p.Beside view p') :
    p.hasEnded = p'.hasEnded := by
  cases h <;> rfl

inductive Stream.Beside (view : Center.Config → Center.Config) (N : Network R → Network R → Prop) :
    Stream × Network R → Stream × Network R → Prop
  | mk {s : Stream} {p : Producer} {n n' : Network R} (hp : s.producer.Beside view p)
      (hn : N n n') : Beside view N (s, n) ({ s with producer := p }, n')

theorem Stream.Beside.step [Remote R] (hN : Network.Twins view δ N) {s s' : Stream}
    {n n' : Network R} (h : Beside view N (s, n) (s', n')) (cancelled : Bool) :
    Option.Rel (Beside view N) (s.step cancelled n) (s'.step cancelled n') := by
  obtain @⟨_, p, _, _, hp, h⟩ := h
  obtain ⟨producer, queue, room, fault, heard⟩ := s
  have ended {m m' : Network R} (e : Option Error) (hm : N m m') :
      Beside view N (⟨.ended, queue, room, e, heard⟩, m) (⟨.ended, queue, room, e, heard⟩, m') :=
    .mk .ended hm
  unfold Stream.step
  cases hp with
  | @visiting cs cs' hcs =>
    cases cs with
    | nil =>
      obtain rfl := List.map_eq_nil_iff.1 hcs.symm
      exact .some (ended fault h)
    | cons c cs =>
      obtain ⟨c', cs', rfl, hc, more⟩ := List.map_eq_cons_iff.1 hcs.symm
      dsimp only
      split
      · exact .some (ended _ h)
      · obtain ⟨r, m, m', hm, hm', left⟩ := (hN.connect h hc.symm).parts
        rw [hm, hm']
        cases r with
        | error e => exact .some (ended _ left)
        | ok u => exact .some (.mk (.listing hc.symm more.symm) left)
  | @listing c c' cs cs' hc hcs =>
    dsimp only
    split
    · exact .some (ended _ h)
    · obtain ⟨r, m, m', hm, hm', left⟩ := (hN.datacenters h hc).parts
      rw [hm, hm']
      cases r with
      | error e => exact .some (ended _ left)
      | ok ds => exact .some (.mk (.publishing ds hcs) left)
  | publishing ds hcs =>
    cases ds with
    | nil => exact .some (.mk (.visiting hcs) h)
    | cons d ds =>
      dsimp only
      split
      · exact .some (ended _ h)
      · split
        · exact .some (ended fault h)
        · split
          · exact .some (.mk (.publishing ds hcs) h)
          · exact .none
  | ended => exact .none

namespace Search

def Worker.later (δ : Nat) : Worker → Worker
  | waiting d s due => waiting d s (due + δ)
  | w => w

theorem Worker.hasEnded_later (δ : Nat) (w : Worker) : (w.later δ).hasEnded = w.hasEnded := by
  cases w <;> rfl

theorem Worker.due?_later (δ : Nat) (w : Worker) : (w.later δ).due? = w.due?.map (· + δ) := by
  cases w <;> rfl

theorem Worker.later_after (δ : Nat) (r : Except Error VirtualMachine) :
    (after r).later δ = after r := by
  unfold after
  split
  · split <;> rfl
  · rfl

end Search

namespace Search.State

theorem earliest_later (δ : Nat) (ms : List (Nat × Move)) :
    earliest (ms.map (Prod.map (· + δ) id)) = (earliest ms).map (Prod.map (· + δ) id) := by
  unfold earliest
  rw [← List.map_mergeSort (r := fun a b => decide (a.1 ≤ b.1)), List.head?_map]
  intro a _ b _
  simp

/-- The second search is as far as the first, over its own network and `δ` later. -/
inductive Beside (view : Center.Config → Center.Config) (δ : Nat)
    (N : Network R → Network R → Prop) (s : State R) : State R → Prop
  | mk {p : Producer} {n : Network R} (hp : s.stream.producer.Beside view p) (hn : N s.net n) :
    Beside view δ N s { s with
      net := n
      stream := { s.stream with producer := p }
      workers := s.workers.map (Worker.later δ) }

namespace Beside

variable {s t : State R} {n m : Network R}

theorem common (h : Beside view δ N s t) :
    t.query = s.query ∧ t.phase = s.phase ∧ t.cancelled = s.cancelled ∧
      t.abandoned = s.abandoned ∧ t.workers = s.workers.map (Worker.later δ) := by
  obtain ⟨-, -⟩ := h
  exact ⟨rfl, rfl, rfl, rfl, rfl⟩

theorem outcome (h : Beside view δ N s t) : s.outcome = t.outcome := by
  obtain ⟨-, -⟩ := h
  rfl

theorem nets (h : Beside view δ N s t) : N s.net t.net := by
  obtain ⟨-, hn⟩ := h
  exact hn

theorem net (h : Beside view δ N s t) (hn : N n m) :
    Beside view δ N { s with net := n } { t with net := m } := by
  obtain ⟨hp, -⟩ := h
  exact .mk hp hn

theorem put (h : Beside view δ N s t) (i : Nat) {v w : Worker} (hw : v.later δ = w) :
    Beside view δ N (s.put i v) (t.put i w) := by
  obtain ⟨hp, hn⟩ := h
  unfold State.put
  dsimp only
  rw [← hw, ← List.map_set]
  exact .mk hp hn

theorem after (h : Beside view δ N s t) (i : Nat) (r : Except Error VirtualMachine) :
    Beside view δ N (s.put i (.after r)) (t.put i (.after r)) :=
  h.put i (Worker.later_after δ r)

theorem hearResult (h : Beside view δ N s t) :
    Option.Rel (Beside view δ N) s.hearResult t.hearResult := by
  obtain ⟨hp, hn⟩ := h
  have ended : (s.workers.map (Worker.later δ)).all Worker.hasEnded =
      s.workers.all Worker.hasEnded := by
    rw [List.all_map]
    exact congrArg (List.all s.workers ·) (funext (Worker.hasEnded_later δ))
  unfold State.hearResult
  dsimp only
  rw [ended]
  cases s.results with
  | nil =>
    dsimp only
    split
    · exact .some (.mk hp hn)
    · exact .none
  | cons r rs => cases r <;> exact .some (.mk hp hn)

theorem hearFault (h : Beside view δ N s t) :
    Option.Rel (Beside view δ N) s.hearFault t.hearFault := by
  obtain ⟨hp, hn⟩ := h
  obtain ⟨query, net, ⟨producer, queue, room, fault, heard⟩⟩ := s
  unfold State.hearFault
  dsimp only
  cases fault with
  | none =>
    dsimp only
    rw [hp.hasEnded]
    split
    · exact .some (.mk hp hn)
    · exact .none
  | some e =>
    refine .some ?_
    split <;> exact .mk hp hn

theorem close (h : Beside view δ N s t) : Beside view δ N s.close t.close := by
  obtain ⟨hp, hn⟩ := h
  unfold State.close
  dsimp only
  split
  · split <;> exact .mk hp hn
  · exact .mk hp hn

theorem take (h : Beside view δ N s t) (i : Nat) :
    Option.Rel (Beside view δ N) (s.take i) (t.take i) := by
  obtain ⟨hp, hn⟩ := h
  obtain ⟨query, net, ⟨producer, queue, room, fault, heard⟩, workers, results, found, failed,
    listening, cancelled, abandoned, phase⟩ := s
  unfold State.take
  cases queue with
  | nil =>
    dsimp only
    rw [hp.hasEnded]
    split
    · exact .some (put (.mk hp hn) i rfl)
    · exact .none
  | cons d ds =>
    have taken : Beside view δ N ⟨query, net, ⟨producer, ds, room, fault, heard⟩, workers, results,
        found, failed, listening, cancelled, abandoned, phase⟩ _ := .mk hp hn
    exact .some (taken.put i rfl)

variable [Remote R] (hN : Network.Twins view δ N)
include hN

theorem wait (h : Beside view δ N s t) (time : Nat) :
    Beside view δ N (s.wait time) (t.wait (time + δ)) :=
  h.net (hN.wait h.nets time)

theorem begin (h : Beside view δ N s t) (i : Nat) (d : Datacenter) :
    Beside view δ N (s.begin i d) (t.begin i d) := by
  obtain ⟨r, n, m, hn, hm, opened⟩ := (hN.client h.nets d.host).parts
  unfold State.begin
  rw [hn, hm]
  cases r with
  | error e => exact (h.net opened).after i (.error e)
  | ok session =>
    obtain ⟨due, begun⟩ := hN.start opened session d.id
    exact (h.net begun).put i (congrArg (Worker.waiting d session) due.symm)

theorem finish (h : Beside view δ N s t) (i : Nat) (d : Datacenter) (session : Session) :
    Beside view δ N (s.finish i d session) (t.finish i d session) := by
  obtain ⟨r, n, m, hn, hm, finished⟩ := (hN.finish h.nets session d.id).parts
  unfold State.finish
  rw [hn, hm]
  cases r with
  | error e => exact (h.net finished).after i (.error e)
  | ok ms =>
    have found := (h.net finished).after i (s.query.answer d ms)
    obtain ⟨-, -⟩ := h
    exact found

theorem produce (h : Beside view δ N s t) :
    Option.Rel (Beside view δ N) s.produce t.produce := by
  obtain @⟨p, n, hp, hn⟩ := h
  have moved := Stream.Beside.step hN (.mk hp hn) s.cancelled
  unfold State.produce
  dsimp only
  generalize s.stream.step s.cancelled s.net = x at moved
  generalize Stream.step s.cancelled { s.stream with producer := p } n = y at moved
  cases moved with
  | none => exact .none
  | some moved =>
    obtain ⟨hp, hn⟩ := moved
    exact .some (.mk hp hn)

theorem act (h : Beside view δ N s t) (i : Nat) (w : Worker) :
    Option.Rel (Beside view δ N) (s.act i w) (t.act i (w.later δ)) := by
  obtain ⟨-, -, cancelled, -⟩ := h.common
  cases w with
  | idle =>
    simp only [State.act, Worker.later, cancelled]
    split
    · exact .some (h.put i rfl)
    · exact h.take i
  | opening d =>
    simp only [State.act, Worker.later, cancelled]
    split
    · exact .some (h.put i rfl)
    · exact .some (h.begin hN i d)
  | waiting d session due =>
    simp only [State.act, Worker.later, cancelled]
    split
    · exact .some (h.put i rfl)
    · exact .some (h.finish hN i d session)
  | reporting r =>
    obtain ⟨hp, hn⟩ := h
    have heard := Beside.mk (s := { s with results := s.results ++ [r] }) (δ := δ) hp hn
    exact .some (heard.put i rfl)
  | ended => exact .none

theorem step (h : Beside view δ N s t) (m : Move) :
    Option.Rel (Beside view δ N) (s.step m) (t.step m) := by
  obtain ⟨-, phase, -, abandoned, workers⟩ := h.common
  cases m with
  | producer => exact h.produce hN
  | worker i =>
    simp only [State.step, workers, List.getElem?_map]
    cases s.workers[i]? with
    | none => exact .none
    | some w => exact h.act hN i w
  | result =>
    simp only [State.step, phase]
    split
    · exact h.hearResult
    · exact .none
  | fault =>
    have hearFault := h.hearFault
    obtain ⟨-, -⟩ := h
    simp only [State.step]
    split
    · exact hearFault
    · exact .none
  | close =>
    have close := h.close
    obtain ⟨hp, -⟩ := h
    simp only [State.step, hp.hasEnded]
    split
    · exact .some close
    · exact .none
  | abandon =>
    simp only [State.step, phase, abandoned]
    split
    · exact .none
    · obtain ⟨hp, hn⟩ := h
      exact .some (.mk hp hn)

/-- What one search comes to by some moves, the other comes to by the same, made `δ` later. -/
theorem follow (h : Beside view δ N s t) {ms : List (Nat × Move)} {u : State R} {es : List Event}
    (hu : s.follow ms = some (u, es)) :
    ∃ v es', t.follow (ms.map (Prod.map (· + δ) id)) = some (v, es') ∧ Beside view δ N u v := by
  induction ms generalizing s t es with
  | nil =>
    obtain ⟨rfl, -⟩ := Prod.mk.inj (Option.some.inj hu)
    exact ⟨t, [], rfl, h⟩
  | cons tm ms ih =>
    obtain ⟨time, m⟩ := tm
    show ∃ v es', ((t.wait (time + δ)).step m).bind _ = some (v, es') ∧ _
    rw [State.follow] at hu
    obtain ⟨s', hs', hu⟩ := Option.bind_eq_some_iff.1 hu
    obtain ⟨⟨u', es'⟩, hf, hu⟩ := Option.map_eq_some_iff.1 hu
    obtain ⟨rfl, -⟩ := Prod.mk.inj hu
    have moved := (h.wait hN time).step hN m
    rw [hs'] at moved
    generalize (t.wait (time + δ)).step m = y at moved
    cases moved with
    | some moved =>
      obtain ⟨v, es, hv, left⟩ := ih moved hf
      refine ⟨v, (t.wait (time + δ)).events m ++ es, ?_, left⟩
      rw [Option.bind_some, hv]
      rfl

theorem follow_back (h : Beside view δ N s t) {ms : List (Nat × Move)} {v : State R}
    {es : List Event} (hv : t.follow ms = some (v, es)) :
    ∃ u es', s.follow (ms.map (Prod.map (· - δ) id)) = some (u, es') ∧ Beside view δ N u v := by
  induction ms generalizing s t es with
  | nil =>
    obtain ⟨rfl, -⟩ := Prod.mk.inj (Option.some.inj hv)
    exact ⟨s, [], rfl, h⟩
  | cons tm ms ih =>
    obtain ⟨time, m⟩ := tm
    show ∃ u es', ((s.wait (time - δ)).step m).bind _ = some (u, es') ∧ _
    -- The later clock is past `δ` already.
    have late : t.wait (time - δ + δ) = t.wait time := by
      have passed := hN.clock h.nets
      unfold State.wait
      rw [show max t.net.clock (time - δ + δ) = max t.net.clock time by omega]
    rw [State.follow] at hv
    obtain ⟨t', ht', hv⟩ := Option.bind_eq_some_iff.1 hv
    obtain ⟨⟨v', es'⟩, hf, hv⟩ := Option.map_eq_some_iff.1 hv
    obtain ⟨rfl, -⟩ := Prod.mk.inj hv
    have moved := (h.wait hN (time - δ)).step hN m
    rw [late, ht'] at moved
    generalize (s.wait (time - δ)).step m = x at moved
    cases moved with
    | some moved =>
      obtain ⟨u, es, hu, left⟩ := ih moved hf
      refine ⟨u, (s.wait (time - δ)).events m ++ es, ?_, left⟩
      rw [Option.bind_some, hu]
      rfl

theorem ready (h : Beside view δ N s t) : t.ready = s.ready := by
  have due (w : Worker) :
      (w.later δ).due?.all (· ≤ t.net.clock) = w.due?.all (· ≤ s.net.clock) := by
    rw [Worker.due?_later, Option.all_map, hN.clock h.nets]
    exact congrArg (w.due?.all ·) (funext fun time => by simp)
  obtain ⟨-, -, -, -, workers⟩ := h.common
  unfold State.ready
  dsimp only
  rw [workers, List.zipIdx_map, List.filter_map, List.map_map]
  have same := congrArg (List.map fun p : Worker × Nat => Move.worker p.2)
    (List.filter_congr fun p (_ : p ∈ s.workers.zipIdx) => due p.1)
  exact congrArg ([Move.result, .fault, .producer] ++ · ++ [.close]) same

omit [Remote R] hN in
theorem timed (h : Beside view δ N s t) (giveUp : Option Nat) :
    t.timed (giveUp.map (· + δ)) = (s.timed giveUp).map (Prod.map (· + δ) id) := by
  obtain ⟨-, -, -, -, workers⟩ := h.common
  unfold State.timed
  rw [List.map_append, workers, List.zipIdx_map, List.filterMap_map, List.map_filterMap]
  refine congrArg₂ (· ++ ·) ?_ (congrArg (List.filterMap · s.workers.zipIdx) (funext fun p => ?_))
  · cases giveUp <;> rfl
  · obtain ⟨w, i⟩ := p
    show (w.later δ).due?.map _ = (w.due?.map _).map _
    rw [Worker.due?_later, Option.map_map, Option.map_map]
    rfl

theorem next (h : Beside view δ N s t) (giveUp : Option Nat) :
    Option.Rel (Beside view δ N) (s.next giveUp) (t.next (giveUp.map (· + δ))) := by
  obtain ⟨-, -, -, abandoned, -⟩ := h.common
  have moved := rel_findSome? (h.step hN) s.ready
  -- Where nobody is ready, time goes on to the earliest of what is due: the same one in both.
  have patience : (if t.abandoned then none else giveUp.map (· + δ)) =
      (if s.abandoned then none else giveUp).map (· + δ) := by
    rw [abandoned]
    split <;> rfl
  unfold State.next
  rw [h.ready hN, patience, h.timed, earliest_later]
  generalize s.ready.findSome? s.step = x at moved
  generalize s.ready.findSome? t.step = y at moved
  cases moved with
  | some moved => exact .some moved
  | none =>
    dsimp only
    cases earliest (s.timed (if s.abandoned then none else giveUp)) with
    | none => exact .none
    | some p => exact (h.wait hN p.1).step hN p.2

theorem run (h : Beside view δ N s t) (giveUp : Option Nat) :
    Beside view δ N (s.run giveUp) (t.run (giveUp.map (· + δ))) := by
  fun_induction State.run giveUp s generalizing t with
  | case1 s hs =>
    have moved := h.next hN giveUp
    rw [hs] at moved
    generalize ht : t.next (giveUp.map (· + δ)) = y at moved
    cases moved
    rwa [run_of_none ht]
  | case2 s u hs ih =>
    have moved := h.next hN giveUp
    rw [hs] at moved
    generalize ht : t.next (giveUp.map (· + δ)) = y at moved
    cases moved with
    | some moved =>
      rw [run_of_some ht]
      exact ih moved

end Beside

theorem beside_start [Remote R] (hN : Network.Twins view δ N) {n m : Network R} (h : N n m)
    (q : Query) (pool : Nat) (spent : Bool) :
    Beside view δ N (start q pool spent n) (start q pool spent m) := by
  have idle : (List.replicate pool Worker.idle).map (Worker.later δ) =
      List.replicate pool Worker.idle := by rw [List.map_replicate]; rfl
  have begun := Beside.mk (s := start q pool spent n) (δ := δ) (.visiting (hN.configs h)) h
  rwa [start, idle] at begun

end Search.State

theorem Network.Twins.search [Remote R] (hN : Network.Twins view δ N) {n m : Network R}
    (h : N n m) (pool : Nat) (patience : Patience) (q : Query) :
    Agree N ((Network.search pool patience q).run.run n)
      ((Network.search pool patience q).run.run m) := by
  show Agree _ (Network.search pool patience q n) (Network.search pool patience q m)
  unfold Network.search
  split
  -- Without a query nothing is begun.
  · exact ⟨rfl, h⟩
  · have ended := (Search.State.beside_start hN h q pool (patience = .spent)).run hN
    cases patience with
    | lasting ms =>
      have due : m.clock + ms = n.clock + ms + δ := by rw [hN.clock h, Nat.add_right_comm]
      dsimp only
      rw [due]
      exact ⟨(ended (some (n.clock + ms))).outcome, (ended (some (n.clock + ms))).nets⟩
    | endless | spent => exact ⟨(ended none).outcome, (ended none).nets⟩

namespace Listing

theorem run_of_none [Remote R] {cancelled : Bool} {l : Listing R} (h : l.step cancelled = none) :
    l.run cancelled = l := by
  rw [run]
  split
  · rfl
  · simp_all

theorem run_of_some [Remote R] {cancelled : Bool} {l m : Listing R}
    (h : l.step cancelled = some m) : l.run cancelled = m.run cancelled := by
  rw [run]
  split
  · simp_all
  · simp_all

inductive Beside (view : Center.Config → Center.Config) (N : Network R → Network R → Prop)
    (l : Listing R) : Listing R → Prop
  | mk {p : Producer} {n : Network R} (hp : l.stream.producer.Beside view p) (hn : N l.net n) :
    Beside view N l { l with net := n, stream := { l.stream with producer := p } }

namespace Beside

variable {k l : Listing R}

theorem leave (h : Beside view N k l) : Beside view N k.leave l.leave := by
  obtain ⟨hp, hn⟩ := h
  unfold Listing.leave
  dsimp only
  split <;> exact .mk hp hn

variable [Remote R]

theorem step (hN : Network.Twins view δ N) (h : Beside view N k l) (cancelled : Bool) :
    Option.Rel (Beside view N) (k.step cancelled) (l.step cancelled) := by
  obtain @⟨p, n, hp, hn⟩ := h
  obtain ⟨⟨producer, queue, room, fault, heard⟩, net⟩ := k
  have moved := Stream.Beside.step hN (.mk hp hn) cancelled
  unfold Listing.step
  dsimp only at moved hp ⊢
  cases queue with
  | nil =>
    dsimp only
    generalize Stream.step cancelled ⟨producer, [], room, fault, heard⟩ net = x at moved
    generalize Stream.step cancelled ⟨p, [], room, fault, heard⟩ n = y at moved
    cases moved with
    | none => exact .none
    | some moved =>
      obtain ⟨hp, hn⟩ := moved
      exact .some (.mk hp hn)
  | cons d ds => exact .some (leave (.mk hp hn))

theorem run (hN : Network.Twins view δ N) (h : Beside view N k l) (cancelled : Bool) :
    Beside view N (k.run cancelled) (l.run cancelled) := by
  fun_induction Listing.run cancelled k generalizing l with
  | case1 k hk =>
    have moved := h.step hN cancelled
    rw [hk] at moved
    generalize hl : l.step cancelled = y at moved
    cases moved
    rwa [run_of_none hl]
  | case2 k k' hk ih =>
    have moved := h.step hN cancelled
    rw [hk] at moved
    generalize hl : l.step cancelled = y at moved
    cases moved with
    | some moved =>
      rw [run_of_some hl]
      exact ih moved

end Beside

end Listing

theorem Network.Twins.listing [Remote R] (hN : Network.Twins view δ N) {n m : Network R}
    (h : N n m) (room : Nat) (wanted : Option Nat) (cancelled : Bool) :
    (n.listing room wanted cancelled).Beside view N (m.listing room wanted cancelled) :=
  Listing.Beside.run hN (Listing.Beside.leave (.mk (.visiting (hN.configs h)) h)) cancelled

namespace Enumeration

inductive Beside (view : Center.Config → Center.Config) (N : Network R → Network R → Prop)
    (e : Enumeration R) : Enumeration R → Prop
  | mk {p : Producer} {n : Network R} (hp : e.stream.producer.Beside view p) (hn : N e.net n) :
    Beside view N e { e with net := n, stream := { e.stream with producer := p } }

variable [Remote R] {e e' : Enumeration R}

theorem beside_start (hN : Network.Twins view δ N) {n m : Network R} (h : N n m) (room : Nat) :
    Beside view N (start (n.centers.map (·.2.config)) room n)
      (start (m.centers.map (·.2.config)) room m) :=
  .mk (.visiting (hN.configs h)) h

theorem Beside.step (hN : Network.Twins view δ N) (h : Beside view N e e') (m : Move) :
    Option.Rel (Beside view N) (e.step m) (e'.step m) := by
  obtain @⟨p, n, hp, hn⟩ := h
  obtain ⟨⟨producer, queue, room, fault, heard⟩, net⟩ := e
  have moved (cancelled : Bool) := Stream.Beside.step hN (.mk hp hn) cancelled
  dsimp only at moved hp
  unfold Enumeration.step
  cases m with
  | produce =>
    rename_i cancelled
    specialize moved cancelled
    dsimp only
    generalize Stream.step cancelled ⟨producer, queue, room, fault, heard⟩ net = x at moved
    generalize Stream.step cancelled ⟨p, queue, room, fault, heard⟩ n = y at moved
    cases moved with
    | none => exact .none
    | some moved =>
      obtain ⟨hp, hn⟩ := moved
      exact .some (.mk hp hn)
  | take =>
    cases queue with
    | nil => exact .none
    | cons d ds => exact .some (.mk hp hn)
  | hear =>
    cases fault with
    | none => exact .none
    | some x => exact .some (.mk hp hn)
  | cancel => exact .some (.mk hp hn)

theorem Beside.follow (hN : Network.Twins view δ N) (h : Beside view N e e') {ms : List Move}
    {u : Enumeration R} (hu : e.follow ms = some u) :
    ∃ v, e'.follow ms = some v ∧ Beside view N u v := by
  induction ms generalizing e e' with
  | nil =>
    obtain rfl := Option.some.inj hu
    exact ⟨e', rfl, h⟩
  | cons m ms ih =>
    obtain ⟨s, hs, hu⟩ := Option.bind_eq_some_iff.1 hu
    have moved := h.step hN m
    rw [hs] at moved
    generalize ht : e'.step m = y at moved
    cases moved with
    | some moved =>
      obtain ⟨v, hv, left⟩ := ih moved hu
      exact ⟨v, Option.bind_eq_some_iff.2 ⟨_, ht, hv⟩, left⟩

end Enumeration

end StorageDriver
