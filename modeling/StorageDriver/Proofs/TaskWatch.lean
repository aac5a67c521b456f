import Mathlib.Algebra.Ring.Nat
import Mathlib.Data.Nat.Find
import StorageDriver.Proofs.Documents
import StorageDriver.Volumes

namespace StorageDriver

namespace Task

/-- What reading `i` of a task shows that goes through `states` and stays at the last one. -/
def reading (states : List String) (i : Nat) : String := states.getD (min i (states.length - 1)) ""

def later : List String → List String
  | _ :: s :: ss => s :: ss
  | ss => ss

theorem reading_zero (states : List String) : reading states 0 = states.headD "" := by
  cases states <;> simp [reading]

theorem reading_later (states : List String) (i : Nat) :
    reading (later states) i = reading states (i + 1) := by
  match states with
  | [] => rfl
  | [s] => simp [later, reading]
  | s :: s' :: ss =>
    have hi : min (i + 1) (ss.length + 1) = min i ss.length + 1 := by omega
    simp [later, reading, hi]

def Ends (text : String) : Prop := text = "FINISHED" ∨ text = "ERROR"

instance (text : String) : Decidable (Ends text) := inferInstanceAs (Decidable (_ ∨ _))

theorem isTerminal_ofText (text : String) : (State.ofText text).isTerminal = true ↔ Ends text := by
  unfold State.ofText Ends
  split
  · simp [State.isTerminal, *]
  · split <;> simp [State.isTerminal, *]

def detail (id text : String) : String := if text = "ERROR" then s!"task {id} failed" else ""

/-- What is known of a task that goes through `states` after reading `i`. -/
def outcome (t : Task) (states : List String) (i : Nat) : Outcome where
  task := t
  state := .ofText (reading states i)
  detail := detail t.id (reading states i)
  polls := i + 1

theorem result_outcome (t : Task) (states : List String) (i : Nat) :
    (t.outcome states i).result =
      if reading states i = "FINISHED" then .ok ()
      else if reading states i = "ERROR" then .error (.taskFailed t.id s!"task {t.id} failed")
      else .error (.taskIncomplete t.id (reading states i)) := by
  by_cases hf : reading states i = "FINISHED"
  · simp [outcome, Outcome.result, State.ofText, hf]
  · by_cases he : reading states i = "ERROR" <;>
      simp [outcome, Outcome.result, State.ofText, detail, hf, he]

theorem result_ok {t : Task} {states : List String} {i : Nat} :
    (t.outcome states i).result = .ok () ↔ reading states i = "FINISHED" := by
  rw [result_outcome]
  split
  · simp [*]
  · split <;> simp [*]

end Task

namespace Plane

variable {p : Plane}

theorem readTask_some {id : String} {states : List String} (h : p.tasks.get? id = some states) :
    (p.readTask id).1 = .ok {
        id := id
        state := Task.reading states 0
        detail := Task.detail id (Task.reading states 0) } ∧
      (p.readTask id).2.tasks.get? id = some (Task.later states) ∧
      (p.readTask id).2.calls.taskPolls = p.calls.taskPolls + 1 := by
  rw [Task.reading_zero]
  unfold readTask
  simp only [h]
  refine ⟨rfl, ?_, trivial⟩
  rw [Table.get?_put, if_pos rfl]
  match states with
  | [] => rfl
  | [s] => rfl
  | s :: s' :: ss => rfl

theorem started {t : Task} (h : p.accept.1 = .ok t) :
    t.id ≠ "" ∧ p.accept.2.tasks.get? t.id = some (p.script.getD ["FINISHED"]) := by
  obtain rfl := Except.ok.inj h
  refine ⟨fun he => ?_, ?_⟩
  · simpa [startTask, freshId] using congrArg String.toList he
  · simp [accept, startTask, freshId]

theorem obeyed {c : Command} {t : Task} (h : (p.obey c).1 = .ok t) :
    t.id ≠ "" ∧ (p.obey c).2.tasks.get? t.id = some (p.script.getD ["FINISHED"]) := by
  cases c with
  | createVolume order =>
    simp only [obey] at h ⊢
    split at h
    · exact started h
    · cases h
  | putMachine doc | deleteVolume id wipe | putVolume doc =>
    simp only [obey] at h ⊢
    split at h
    · rw [if_pos ‹_›]
      exact started h
    · cases h

end Plane

theorem Network.clock_ask {n : Network Fleet} {s : Session} {q : Request} {p : Plane}
    (hp : n.planes.get? s.host = some p) (hq : (p.start q).1 = 0) :
    ((ask s q).run.run n).2.clock = n.clock := by
  show max n.clock (n.clock + ((Remote.start s q).run n.planes).1) = n.clock
  rw [Fleet.run_start, hp]
  simp [hq]

def World.polls (w : World Fleet) (host : String) : Nat :=
  ((w.net.planes.get? host).map (·.calls.taskPolls)).getD 0

/-- From `w` on, nothing was done but to read the task `id` of the plane of `host` `k` times and to
wait. It went through `states` and `time` has passed. -/
structure World.Watched (w : World Fleet) (host id : String) (states : List String) (k time : Nat)
    (w' : World Fleet) : Prop where
  left : ∃ p rest, w'.net.planes.get? host = some p ∧ p.tasks.get? id = some rest ∧
    ∀ i, Task.reading rest i = Task.reading states (k + i)
  polls : w'.polls host = w.polls host + k
  clock : w'.net.clock = w.net.clock + time

namespace World.Watched

variable {w w' : World Fleet} {id : String} {states : List String} {k time : Nat} {s : Session}

theorem ask (h : w.Watched s.host id states k time w') (env : Setting) :
    ∃ w'', (Attempt.ask s (.task id)).execute env w' =
      (.ok {
        id := id
        state := Task.reading states k
        detail := Task.detail id (Task.reading states k) }, w'') ∧
      w.Watched s.host id states (k + 1) time w'' := by
  obtain ⟨p, rest, hp, ht, hr⟩ := h.left
  obtain ⟨ha, hl, hc⟩ := Plane.readTask_some ht
  obtain ⟨hx, hn⟩ := Network.run_ask_some (n := w'.net) (s := s) (q := .task id) hp
  have hp' : Table.get? ((Network.ask s (.task id)).run.run w'.net).2.planes s.host =
      some (p.readTask id).2 := by
    rw [hn, Table.get?_put, if_pos rfl]
    rfl
  refine ⟨_, Prod.ext (hx.trans (ha.trans ?_)) rfl, ⟨_, _, hp', hl, fun i => ?_⟩, ?_, ?_⟩
  · rw [hr 0, Nat.add_zero]
  · rw [Task.reading_later, hr, Nat.add_right_comm, Nat.add_assoc]
  · have hw := h.polls
    rw [World.polls, hp, Option.map_some, Option.getD_some] at hw
    show ((Table.get? ((Network.ask s (.task id)).run.run w'.net).2.planes s.host).map _).getD 0 =
      _
    rw [hp', Option.map_some, Option.getD_some, hc]
    omega
  · exact (Network.clock_ask hp (by rfl)).trans h.clock

theorem sleep (h : w.Watched s.host id states k time w') (env : Setting) (ms : Nat) :
    ∃ w'', (Attempt.sleep ms).execute env w' = (.ok (), w'') ∧
      w.Watched s.host id states k (time + ms) w'' :=
  ⟨_, rfl, h.left, h.polls, by
    show w'.net.clock + ms = _
    rw [h.clock, Nat.add_assoc]⟩

end World.Watched

namespace Poller

variable (p : Poller)

/-- The time of reading `k`, if the limit did not end the pause before it. -/
def due (k : Nat) : Nat := p.delay + p.pause * (2 ^ k - 1)

/-- The time of reading `k`. -/
def time (k : Nat) : Nat := min (p.due k) (max p.delay p.limit)

theorem due_succ (k : Nat) : p.due (k + 1) = p.due k + p.pause * 2 ^ k := by
  have hk : 2 ^ (k + 1) - 1 = 2 ^ k - 1 + 2 ^ k := by
    have := Nat.one_le_two_pow (n := k)
    omega
  rw [due, due, hk, Nat.mul_add, Nat.add_assoc]

theorem le_due (h : 0 < p.pause) (k : Nat) : k ≤ p.due k := by
  induction k with
  | zero => exact Nat.zero_le _
  | succ k ih =>
    have hk : 0 < p.pause * 2 ^ k := Nat.mul_pos h (Nat.two_pow_pos k)
    rw [due_succ]
    omega

theorem limit_le_time (k : Nat) : p.limit ≤ p.time k ↔ p.limit ≤ p.due k := by
  unfold time
  omega

theorem time_succ {k : Nat} (h : ¬ p.limit ≤ p.due k) :
    p.time (k + 1) = p.time k + min (p.pause * 2 ^ k) (p.limit - p.time k) := by
  have hd : p.delay ≤ p.due k := Nat.le_add_right _ _
  unfold time
  rw [due_succ]
  omega

/-- A reading after which no other is made. -/
def Stops (states : List String) (k : Nat) : Prop :=
  Task.Ends (Task.reading states k) ∨ p.limit ≤ p.due k

variable {p} {s : Session} {t : Task} {states : List String} {j : Nat}
  {w w' : World Fleet}

/-- The first reading after which no other is made. -/
structure Settles (states : List String) (j : Nat) : Prop where
  stops : p.Stops states j
  before : ∀ k < j, ¬ p.Stops states k

theorem stops_iff (k : Nat) : p.Stops states k ↔
    (Task.State.ofText (Task.reading states k)).isTerminal = true ∨ p.limit ≤ p.time k := by
  rw [Task.isTerminal_ofText, limit_le_time, Stops]

theorem execute_watch_last (env : Setting) {k : Nat} (hk : p.Stops states k) (fuel pause : Nat)
    (h : w.Watched s.host t.id states k (p.time k) w') :
    ∃ w'', (p.watch s t fuel k (p.time k) pause).execute env w' = (.ok (t.outcome states k), w'') ∧
      w.Watched s.host t.id states (k + 1) (p.time k) w'' := by
  obtain ⟨w₁, ha, h₁⟩ := h.ask env
  refine ⟨w₁, ?_, h₁⟩
  unfold watch
  rw [Attempt.execute_bind, ha]
  dsimp only
  rw [if_pos ((stops_iff k).1 hk)]
  rfl

theorem execute_watch_more (env : Setting) {k : Nat} (hk : ¬ p.Stops states k) (fuel : Nat)
    (h : w.Watched s.host t.id states k (p.time k) w') :
    ∃ w'', (p.watch s t (fuel + 1) k (p.time k) (p.pause * 2 ^ k)).execute env w' =
        (p.watch s t fuel (k + 1) (p.time (k + 1)) (p.pause * 2 ^ (k + 1))).execute env w'' ∧
      w.Watched s.host t.id states (k + 1) (p.time (k + 1)) w'' := by
  have ht : ¬ p.limit ≤ p.due k := fun hl => hk (.inr hl)
  obtain ⟨w₁, ha, h₁⟩ := h.ask env
  obtain ⟨w₂, hs, h₂⟩ := h₁.sleep env (min (p.pause * 2 ^ k) (p.limit - p.time k))
  rw [time_succ p ht]
  refine ⟨w₂, ?_, h₂⟩
  rw [watch, Attempt.execute_bind, ha]
  dsimp only
  rw [if_neg (mt (stops_iff k).2 hk), Attempt.execute_bind, hs, Nat.pow_succ, Nat.mul_assoc]

/-- Readings are made up to the first that stops them. -/
theorem execute_watch (env : Setting) (hj : p.Settles states j) {fuel k : Nat} (hk : k ≤ j)
    (hf : j ≤ k + fuel) (h : w.Watched s.host t.id states k (p.time k) w') :
    ∃ w'', (p.watch s t fuel k (p.time k) (p.pause * 2 ^ k)).execute env w' =
        (.ok (t.outcome states j), w'') ∧
      w.Watched s.host t.id states (j + 1) (p.time j) w'' := by
  induction fuel generalizing k w' with
  | zero =>
    obtain rfl : k = j := by omega
    exact execute_watch_last env hj.stops 0 _ h
  | succ fuel ih =>
    obtain hk | rfl := Nat.lt_or_eq_of_le hk
    · obtain ⟨w₁, he, h₁⟩ := execute_watch_more env (hj.before k hk) fuel h
      rw [he]
      exact ih hk (by omega) h₁
    · exact execute_watch_last env hj.stops _ _ h

theorem execute_poll (env : Setting) (hp : 0 < p.pause) (ht : t.id ≠ "") (hj : p.Settles states j)
    (h : w.Watched s.host t.id states 0 0 w) :
    ∃ w', (p.poll s t).execute env w = (.ok (t.outcome states j), w') ∧
      w.Watched s.host t.id states (j + 1) (p.time j) w' := by
  have hf : j ≤ 0 + (p.limit + UInt32.size) := by
    by_contra hl
    exact hj.before p.limit (by omega) (.inr (p.le_due hp p.limit))
  obtain ⟨w₁, hs, h₁⟩ := h.sleep env p.delay
  have h0 : p.time 0 = p.delay := by
    rw [time, due, Nat.pow_zero, Nat.sub_self, Nat.mul_zero, Nat.add_zero]
    exact Nat.min_eq_left (Nat.le_max_left p.delay p.limit)
  rw [Nat.zero_add, ← h0] at h₁
  obtain ⟨w₂, he, h₂⟩ := execute_watch env hj (Nat.zero_le j) hf h₁
  refine ⟨w₂, ?_, h₂⟩
  rw [poll, if_neg ht, Attempt.execute_bind]
  rw [h0, Nat.pow_zero, Nat.mul_one] at he
  rw [hs]
  exact he

variable (p) in
def last (hp : 0 < p.pause) : Nat :=
  Nat.find (p := fun k => p.limit ≤ p.due k) ⟨p.limit, p.le_due hp p.limit⟩

theorem limit_le_due_last (hp : 0 < p.pause) : p.limit ≤ p.due (p.last hp) :=
  Nat.find_spec (p := fun k => p.limit ≤ p.due k) _

theorem not_stops {hp : 0 < p.pause} {k : Nat} (hk : k < p.last hp)
    (ht : ¬ Task.Ends (Task.reading states k)) : ¬ p.Stops states k :=
  not_or_intro ht (Nat.find_min (p := fun k => p.limit ≤ p.due k) _ hk)

namespace Settles

variable {i : Nat} {hp : 0 < p.pause}

theorem of_ends (hi : i ≤ p.last hp) (ends : Task.Ends (Task.reading states i))
    (before : ∀ k < i, ¬ Task.Ends (Task.reading states k)) : p.Settles states i where
  stops := .inl ends
  before k hk := not_stops (Nat.lt_of_lt_of_le hk hi) (before k hk)

theorem of_never (h : ∀ i ≤ p.last hp, ¬ Task.Ends (Task.reading states i)) :
    p.Settles states (p.last hp) where
  stops := .inr (limit_le_due_last hp)
  before k hk := not_stops hk (h k (Nat.le_of_lt hk))

theorem le_last (hj : p.Settles states j) (hp : 0 < p.pause) : j ≤ p.last hp :=
  Nat.le_of_not_lt fun hl => hj.before _ hl (.inr (limit_le_due_last hp))

theorem unique (hi : p.Settles states i) (hj : p.Settles states j) : i = j :=
  Nat.le_antisymm (Nat.le_of_not_lt fun h => hi.before j h hj.stops)
    (Nat.le_of_not_lt fun h => hj.before i h hi.stops)

end Settles

theorem exists_settles (hp : 0 < p.pause) (states : List String) : ∃ j, p.Settles states j := by
  classical
  have hs : ∃ j, p.Stops states j := ⟨p.last hp, .inr (limit_le_due_last hp)⟩
  exact ⟨Nat.find hs, Nat.find_spec hs, fun k hk => Nat.find_min hs hk⟩

theorem time_last (hp : 0 < p.pause) : p.time (p.last hp) = max p.delay p.limit := by
  have hl := limit_le_due_last hp
  have hd : p.delay ≤ p.due (p.last hp) := Nat.le_add_right _ _
  unfold time
  omega

theorem execute_wait (env : Setting) (hp : 0 < p.pause) (ht : t.id ≠ "") (hj : p.Settles states j)
    (h : w.Watched s.host t.id states 0 0 w) :
    ∃ w', (p.wait s t).execute env w = ((t.outcome states j).result, w') ∧
      w.Watched s.host t.id states (j + 1) (p.time j) w' := by
  obtain ⟨w', he, hw⟩ := execute_poll env hp ht hj h
  refine ⟨w', ?_, hw⟩
  rw [wait, Attempt.execute_bind, he]
  rfl

end Poller

end StorageDriver
