import StorageDriver.Fleet
import StorageDriver.Proofs.Crowd
import StorageDriver.Proofs.SearchOrder

namespace StorageDriver.Search

variable {R : Type}

namespace State

/-- Whether `m` can be made by a party of the search that need not wait for its turn. Idle workers
line up for the stream, and only the one at the `head` of the line takes from it. -/
def Admits (s : State R) (head : Nat) : Move → Prop
  | .worker i => s.workers[i]? = some .idle → s.cancelled = true ∨ i = head
  | .abandon => False
  | _ => True

end State

/-- No channel holds more than it has room for, and nobody searches on once the coordinator has
stopped to gather reports. -/
structure Bounded (pool : Nat) (s : State R) : Prop where
  room : s.stream.room = max (pool * 10) 1
  queue : s.stream.queue.length ≤ s.stream.room
  results : s.results.length + s.workers.countP (!·.hasEnded) ≤ pool
  cancelled : s.phase ≠ .gathering → s.cancelled = true

namespace Bounded

variable {pool : Nat} {s t : State R}

theorem start (n : Network R) (q : Query) (pool : Nat) (spent : Bool) :
    Bounded pool (start q pool spent n) where
  room := rfl
  queue := Nat.zero_le _
  results := by
    have hc : (List.replicate pool Worker.idle).countP (!·.hasEnded) ≤ pool :=
      Nat.le_trans List.countP_le_length (Nat.le_of_eq List.length_replicate)
    show 0 + (List.replicate pool Worker.idle).countP (!·.hasEnded) ≤ pool
    omega
  cancelled hp := absurd rfl hp

theorem wait (h : Bounded pool s) (time : Nat) : Bounded pool (s.wait time) := { h with }

theorem put {i : Nat} {w : Worker} (h : Bounded pool s) (hi : s.workers[i]? = some w)
    (hw : w.hasEnded = false) (v : Worker) : Bounded pool (s.put i v) :=
  { h with
    results := by
      have hc := countP_set_add hi (!·.hasEnded) v
      have hr := h.results
      rw [hw] at hc
      have hv : (!v.hasEnded).toNat ≤ 1 := Bool.toNat_le _
      simp only [Bool.not_false, Bool.toNat_true] at hc
      simp only [State.put]
      omega }

variable [Remote R]

theorem change {m : Move} {fs : List Event} (h : Bounded pool s) (hc : Change s m fs t) :
    Bounded pool t := by
  cases hc with
  | exhaust | stop | connect | refuse | list | unlist | visit | unheard => exact { h with }
  | @publish d ds cs _ _ hr =>
    exact { h with
      queue := by
        simp only [List.length_append, List.length_singleton]
        omega }
  | @quit i w _ hw hi =>
    have hn : w.hasEnded = false := by cases w <;> first | rfl | cases hi
    exact h.put hw hn _
  | @take i d ds _ hw hq =>
    have hs : Bounded pool { s with stream := { s.stream with queue := ds } } :=
      { h with
        queue := by
          have hl := h.queue
          rw [hq, List.length_cons] at hl
          exact Nat.le_of_succ_le hl }
    exact hs.put hw rfl _
  | leave _ hw => exact h.put hw rfl _
  | @«open» i d session due n₁ n₂ _ hw =>
    have hs : Bounded pool { s with net := n₂ } := { h with }
    exact hs.put hw rfl _
  | @unopen i d e n _ hw | @miss i d _ _ e n _ hw =>
    have hs : Bounded pool { s with net := n } := { h with }
    exact hs.put hw rfl _
  | @look i d session due ms n _ hw =>
    have hs : Bounded pool { s with net := n } := { h with }
    exact hs.put hw rfl _
  | @report i r hw =>
    -- The place in the channel is the one that the worker held by not having ended.
    have hr := h.results
    have hc : (s.workers.set i .ended).countP (!·.hasEnded) + 1 =
        s.workers.countP (!·.hasEnded) := countP_set_add hw (!·.hasEnded) .ended
    exact { h with
      results := by
        simp only [State.report, State.put, List.length_append, List.length_singleton]
        omega }
  | hearMatch hp hr | hearFailure hp hr =>
    have hl := h.results
    rw [hr, List.length_cons] at hl
    exact { h with
      results := by simp only [State.blame]; omega
      cancelled := fun _ => rfl }
  | gather | hearFault | abandon => exact { h with cancelled := fun _ => rfl }
  | overhear | deafen => exact { h with }
  | close hp | closeFault hp =>
    exact { h with cancelled := fun _ => h.cancelled (by simp [hp]) }

end Bounded

section

variable [Remote R] {pool : Nat} {es : List Event} {s : State R}

namespace State

/-- However the moves are chosen, and at whatever times they are made, there comes one that cannot
be made. -/
theorem exists_stuck (s : State R) (moves : Nat → Nat × Move) :
    ∃ k, s.follow ((List.range k).map moves) = none := by
  cases h : (s.wait (moves 0).1).step (moves 0).2 with
  | none => exact ⟨1, by simp [follow, h]⟩
  | some t =>
    have hc : t.Closer (s.wait (moves 0).1) := closer_of_step h
    obtain ⟨k, hk⟩ := exists_stuck t fun i => moves (i + 1)
    refine ⟨k + 1, ?_⟩
    rw [List.range_succ_eq_map, List.map_cons, List.map_map, follow, h, Option.bind_some]
    exact Option.map_eq_none_iff.2 hk
termination_by (s.left, s.work)
decreasing_by
  rw [Prod.lex_def]
  exact hc

theorem isSome_produce (hr : s.stream.queue.length < s.stream.room ∨ s.cancelled = true)
    (hp : s.stream.producer.hasEnded = false) : (s.step .producer).isSome = true := by
  simp only [step, produce, Option.isSome_map, Stream.step]
  split
  · rfl
  · split
    · rfl
    · split <;> rfl
  · split
    · rfl
    · split <;> rfl
  · rfl
  · split
    · rfl
    · rename_i hc
      split
      · rfl
      · rw [if_pos (hr.resolve_right hc)]
        rfl
  · rename_i he
    rw [he] at hp
    cases hp

theorem isSome_worker {i : Nat} {w : Worker} (hw : s.workers[i]? = some w)
    (hn : w.hasEnded = false)
    (hi : w = .idle → s.cancelled = true ∨ s.stream.queue ≠ [] ∨
      s.stream.producer.hasEnded = true) : (s.step (.worker i)).isSome = true := by
  simp only [step, hw, Option.bind_some]
  cases w with
  | opening | waiting | reporting => rfl
  | ended => cases hn
  | idle =>
    simp only [act, take]
    obtain hc | hq | he := hi rfl
    · rw [if_pos hc]
      rfl
    · split
      · rfl
      · split
        · rfl
        · contradiction
    · split
      · rfl
      · split
        · rfl
        · rfl

end State

/-- As long as the search is not over somebody can move, whoever is first in the line for the
stream. -/
theorem exists_admitted (hb : Bounded pool s) (hd : s.phase ≠ .done) {head : Nat}
    (hh : (∃ i : Nat, s.workers[i]? = some .idle) → s.workers[head]? = some .idle) :
    ∃ m, s.Admits head m ∧ (s.step m).isSome = true := by
  have room : 0 < s.stream.room := by
    rw [hb.room]
    exact Nat.lt_of_lt_of_le Nat.one_pos (Nat.le_max_right _ _)
  cases hp : s.phase with
  | done => exact absurd hp hd
  | closing =>
    -- The coordinator has cancelled all work and waits for the producer.
    have hc : s.cancelled = true := hb.cancelled (by simp [hp])
    cases he : s.stream.producer.hasEnded with
    | true => exact ⟨.close, trivial, by simp [State.step, hp, he]⟩
    | false => exact ⟨.producer, trivial, State.isSome_produce (.inr hc) he⟩
  | gathering =>
    by_cases hr : s.results = []
    · by_cases hw : s.workers.all Worker.hasEnded = true
      · exact ⟨.result, trivial, by simp [State.step, hp, State.hearResult, hr, hw]⟩
      · obtain ⟨w, hm, hn⟩ : ∃ w ∈ s.workers, w.hasEnded = false := by simpa using hw
        obtain ⟨i, hi⟩ := List.mem_iff_getElem?.1 hm
        by_cases hl : s.workers[i]? = some .idle
        · -- Somebody is in line: the first either takes, or has nothing to take yet.
          have hf := hh ⟨i, hl⟩
          by_cases hs : s.stream.queue = [] ∧ s.stream.producer.hasEnded = false
          · refine ⟨.producer, trivial, State.isSome_produce (.inl ?_) hs.2⟩
            rw [hs.1]
            exact room
          · refine ⟨.worker head, fun _ => .inr rfl, State.isSome_worker hf rfl fun _ => ?_⟩
            by_cases hq : s.stream.queue = []
            · exact .inr (.inr (by simpa [hq] using hs))
            · exact .inr (.inl hq)
        · exact ⟨.worker i, fun h => absurd h hl,
            State.isSome_worker hi hn fun h => absurd (h ▸ hi) hl⟩
    · obtain ⟨r, rs, hrs⟩ := List.exists_cons_of_ne_nil hr
      refine ⟨.result, trivial, ?_⟩
      cases r <;> simp [State.step, hp, State.hearResult, hrs]

theorem Orderly.step_of_done (h : Orderly pool es s) (hd : s.phase = .done) (m : Move) :
    s.step m = none := by
  have he := h.finished hd
  cases m with
  | producer => simp [State.step, State.produce, Stream.step, he]
  | worker i =>
    cases hw : s.workers[i]? with
    | none => simp [State.step, hw]
    | some w =>
      obtain rfl := (h.settled (by simp [hd])).2 w (List.mem_of_getElem? hw)
      simp [State.step, hw, State.act]
  | result | fault | close | abandon => simp [State.step, hd]

/-- Wherever a search has come to, whatever was answered and whenever it was given up: it does not
go on forever, no channel holds more than it has room for, and either somebody can move who need
not wait for its turn, or the search is over, all parties have ended and nothing can happen any
more. -/
theorem comes_to_end {n : Network R} {q : Query} {spent : Bool} {ms : List (Nat × Move)}
    (h : (start q pool spent n).follow ms = some (s, es)) :
    (∀ moves : Nat → Nat × Move, ∃ k, s.follow ((List.range k).map moves) = none) ∧
    (s.stream.queue.length ≤ max (pool * 10) 1 ∧ s.results.length ≤ pool) ∧
    (s.phase ≠ .done → ∀ head,
      ((∃ i : Nat, s.workers[i]? = some .idle) → s.workers[head]? = some .idle) →
        ∃ m, s.Admits head m ∧ (s.step m).isSome = true) ∧
    (s.phase = .done →
      s.stream.producer = .ended ∧ (∀ w ∈ s.workers, w = .ended) ∧ ∀ m, s.step m = none) := by
  obtain ⟨ho, hb⟩ : Orderly pool es s ∧ Bounded pool s :=
    follow_induction (P := fun es u => Orderly pool es u ∧ Bounded pool u)
      ⟨.start n q pool spent, .start n q pool spent⟩
      (fun _ _ time hu => ⟨hu.1.wait time, hu.2.wait time⟩)
      (fun _ _ _ _ _ hu hc => ⟨hu.1.change hc, hu.2.change hc⟩) h
  refine ⟨s.exists_stuck, ⟨hb.room ▸ hb.queue, ?_⟩,
    fun hd head hh => exists_admitted hb hd hh, fun hd => ?_⟩
  · exact Nat.le_trans (Nat.le_add_right _ _) hb.results
  · exact ⟨ho.finished hd, (ho.settled (by simp [hd])).2, ho.step_of_done hd⟩

end

/-- A search given up while its worker waits for an answer leaves neither it nor the producer. -/
theorem comes_to_end_abandoned :
    let plane : Plane := { host := "vc", datacenters := [{ id := "dc", name := "dc" }] }
    let n := Network.register { planes := Fleet.ofPlanes [plane] } plane.config
    ∃ ms s es, (start ⟨"a", ""⟩ 1 false n).follow ms = some (s, es) ∧ s.phase = .done ∧
      s.abandoned = true ∧ s.stream.producer = .ended ∧ (∀ w ∈ s.workers, w = .ended) ∧
      ∀ m, s.step m = none := by
  intro plane n
  let moves : List Move := [.producer, .producer, .producer, .worker 0, .worker 0, .abandon,
    .worker 0, .producer, .producer, .result, .close]
  obtain ⟨s, es, h, hd, ha⟩ : ∃ s es,
      (start ⟨"a", ""⟩ 1 false n).follow (moves.map fun m => (0, m)) = some (s, es) ∧
        s.phase = .done ∧ s.abandoned = true :=
    ⟨_, _, rfl, rfl, rfl⟩
  exact ⟨_, s, es, h, hd, ha, (comes_to_end h).2.2.2 hd⟩

end StorageDriver.Search
