import StorageDriver.Search.State

namespace StorageDriver.Search

namespace Worker

def work : Worker → Nat
  | idle => 2
  | opening _ => 5
  | waiting .. => 4
  | reporting _ => 3
  | ended => 0

theorem work_after (r : Except Error VirtualMachine) : (after r).work ≤ 3 := by
  unfold after
  split
  · split <;> simp [work]
  · simp [work]

def workOf : List Worker → Nat
  | [] => 0
  | w :: ws => w.work + workOf ws

theorem workOf_set {ws : List Worker} {i : Nat} {w : Worker} (h : ws[i]? = some w) (v : Worker) :
    workOf (ws.set i v) + w.work = workOf ws + v.work := by
  induction ws generalizing i with
  | nil => simp at h
  | cons a ws ih =>
    cases i with
    | zero =>
      obtain rfl : a = w := by simpa using h
      simp only [List.set_cons_zero, workOf]
      omega
    | succ i =>
      have := ih (i := i) (by simpa using h)
      simp only [List.set_cons_succ, workOf]
      omega

end Worker

namespace Phase

def work : Phase → Nat
  | gathering => 2
  | closing => 1
  | done => 0

end Phase

namespace State

variable {R : Type}

def work (s : State R) : Nat :=
  s.stream.work + Worker.workOf s.workers + s.results.length + s.phase.work +
    s.listening.toNat + (!s.abandoned).toNat

def left (s : State R) : Nat := s.stream.producer.left

/-- Fewer centers are left for `s` than for `t`, or as many and less work. -/
def Closer (s t : State R) : Prop := s.left < t.left ∨ s.left = t.left ∧ s.work < t.work

theorem work_put {s : State R} {i : Nat} {w : Worker} (h : s.workers[i]? = some w) (v : Worker) :
    (s.put i v).work + w.work = s.work + v.work := by
  have := Worker.workOf_set h v
  simp only [put, work]
  omega

theorem closer_put {s : State R} {i : Nat} {w v : Worker} (h : s.workers[i]? = some w)
    (hv : v.work < w.work) (n : Network R) : ({ s with net := n }.put i v).Closer s := by
  have := work_put h v
  refine .inr ⟨rfl, ?_⟩
  show (s.put i v).work < s.work
  omega

theorem closer_hearResult {s t : State R} (hp : s.phase = .gathering)
    (h : s.hearResult = some t) : t.Closer s := by
  unfold hearResult at h
  split at h
  case h_3 hr =>
    split at h
    · obtain rfl := Option.some.inj h
      exact .inr ⟨rfl, by simp [work, hp, Phase.work]⟩
    · cases h
  all_goals
    rename_i hr
    obtain rfl := Option.some.inj h
    exact .inr ⟨rfl, by simp [work, blame, hr]⟩

theorem closer_hearFault {s t : State R} (hl : s.listening = true)
    (h : s.hearFault = some t) : t.Closer s := by
  unfold hearFault at h
  split at h
  case h_1 e he =>
    obtain rfl := Option.some.inj h
    split <;> exact .inr ⟨rfl, by simp [work, blame, Stream.work, he]⟩
  case h_2 =>
    split at h
    · obtain rfl := Option.some.inj h
      exact .inr ⟨rfl, by simp [work, hl]⟩
    · cases h

theorem closer_close {s : State R} (hp : s.phase = .closing) : s.close.Closer s := by
  unfold close
  split
  · split <;> exact .inr ⟨rfl, by simp [work, blame, hp, Phase.work]⟩
  · exact .inr ⟨rfl, by simp [work, hp, Phase.work]⟩

variable [Remote R]

theorem closer_act {s t : State R} {i : Nat} {w : Worker} (hw : s.workers[i]? = some w)
    (h : s.act i w = some t) : t.Closer s := by
  cases w with
  | idle =>
    simp only [act, take] at h
    split at h
    · obtain rfl := Option.some.inj h
      exact closer_put hw (by simp [Worker.work]) s.net
    · split at h
      · rename_i d ds hq
        obtain rfl := Option.some.inj h
        have := Worker.workOf_set hw (.opening d)
        refine .inr ⟨rfl, ?_⟩
        simp only [put, work, Stream.work, hq, List.length_cons, Worker.work] at *
        omega
      · split at h
        · obtain rfl := Option.some.inj h
          exact closer_put hw (by simp [Worker.work]) s.net
        · cases h
  | opening d =>
    obtain rfl := Option.some.inj h
    split
    · exact closer_put hw (by simp [Worker.work]) s.net
    · unfold begin
      split
      · exact closer_put hw (by simp [Worker.work]) _
      · exact closer_put hw (Nat.lt_of_le_of_lt (Worker.work_after _) (by simp [Worker.work])) _
  | waiting d session due =>
    obtain rfl := Option.some.inj h
    split
    · exact closer_put hw (by simp [Worker.work]) s.net
    · unfold finish
      split <;>
      exact closer_put hw (Nat.lt_of_le_of_lt (Worker.work_after _) (by simp [Worker.work])) _
  | reporting r =>
    obtain rfl := Option.some.inj h
    have := Worker.workOf_set hw .ended
    refine .inr ⟨rfl, ?_⟩
    simp only [report, put, work, List.length_append, List.length_singleton, Worker.work] at *
    omega
  | ended => cases h

theorem closer_of_step {s t : State R} {m : Move} (h : s.step m = some t) : t.Closer s := by
  cases m with
  | producer =>
    obtain ⟨⟨u, n⟩, hu, rfl⟩ := Option.map_eq_some_iff.1 h
    rcases Stream.closer_of_step hu with hl | ⟨hl, hw⟩
    · exact .inl hl
    · refine .inr ⟨hl, ?_⟩
      simp only [work]
      omega
  | worker i =>
    obtain ⟨w, hw, hs⟩ := Option.bind_eq_some_iff.1 h
    exact closer_act hw hs
  | result =>
    simp only [step] at h
    split at h
    · exact closer_hearResult ‹_› h
    · cases h
  | fault =>
    simp only [step] at h
    split at h
    · exact closer_hearFault (by simp_all) h
    · cases h
  | close =>
    simp only [step] at h
    split at h
    · obtain rfl := Option.some.inj h
      exact closer_close (by simp_all)
    · cases h
  | abandon =>
    simp only [step] at h
    split at h
    · cases h
    · obtain rfl := Option.some.inj h
      exact .inr ⟨rfl, by simp_all [work]⟩

end State

end StorageDriver.Search
