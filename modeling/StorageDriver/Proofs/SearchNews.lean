import StorageDriver.Proofs.SearchOrder

namespace StorageDriver.Search.State

variable {R : Type}

/-- The failure that the coordinator still has to hear from the stream. -/
def alarm (s : State R) : Option Error :=
  if s.phase = .done then none
  else s.stream.fault.bind fun e => if e = .cancelled then none else some e

def verdict (s : State R) : Option (Except Error VirtualMachine) :=
  (s.found.map .ok).or (s.failed.map .error)

/-- All that anybody has to say about the outcome, however far it has come. -/
def news (s : State R) : List (Except Error VirtualMachine) :=
  s.workers.filterMap Worker.word ++
    (s.results ++ ((s.alarm.map .error).toList ++ s.verdict.toList))

theorem outcome_eq (s : State R) : s.outcome =
    s.verdict.getD (.error (if s.abandoned then .cancelled else s.query.missed)) := by
  unfold outcome verdict
  cases s.found <;> cases s.failed <;> rfl

variable {s t : State R} {w v : Worker} {i : Nat} {r : Except Error VirtualMachine} {e : Error}

theorem only (h : s.workers = [w]) (hi : s.workers[i]? = some v) : i = 0 ∧ v = w := by
  rw [h] at hi
  cases i with
  | zero => exact ⟨rfl, (Option.some.inj hi).symm⟩
  | succ i => cases hi

theorem workers_put (h : s.workers = [w]) (v : Worker) : (s.put 0 v).workers = [v] := by
  simp [put, h]

theorem news_of_only (h : s.workers = [w]) : s.news =
    w.word.toList ++ (s.results ++ ((s.alarm.map .error).toList ++ s.verdict.toList)) := by
  cases hw : w.word <;> simp [news, h, hw]

theorem news_put (h : s.workers = [w]) (hv : v.word = w.word) : (s.put 0 v).news = s.news := by
  rw [news_of_only h, news_of_only (workers_put h v), hv]
  rfl

theorem news_put_of_word (h : s.workers = [w]) (hn : s.news = []) (hv : v.word = some r) :
    (s.put 0 v).news = [r] := by
  rw [news_of_only h] at hn
  rw [news_of_only (workers_put h v), hv]
  exact congrArg (r :: ·) (List.append_eq_nil_iff.1 hn).2

theorem news_fail (hn : s.news = []) (hd : s.phase ≠ .done) (he : e ≠ .cancelled)
    (n : Network R) : { s with net := n, stream := s.stream.fail e }.news = [.error e] := by
  have ⟨hw, hn⟩ := List.append_eq_nil_iff.1 hn
  have ⟨hr, hn⟩ := List.append_eq_nil_iff.1 hn
  have hv : s.verdict.toList = [] := (List.append_eq_nil_iff.1 hn).2
  have ha : { s with net := n, stream := s.stream.fail e }.alarm = some e := by
    simp [alarm, Stream.fail, hd, he]
  rw [news, ha]
  show s.workers.filterMap Worker.word ++ (s.results ++ ([.error e] ++ s.verdict.toList)) = _
  rw [hw, hr, hv]
  rfl

theorem news_stop (hf : s.stream.fault = none) :
    { s with stream := s.stream.fail .cancelled }.news = s.news := by
  simp [news, alarm, verdict, Stream.fail, hf]

theorem verdict_eq_none : s.verdict = none ↔ s.found = none ∧ s.failed = none := by
  simp [verdict]

theorem nil_of_length_le {α : Type} {as bs : List α} {a : α} (h : (as ++ a :: bs).length ≤ 1) :
    as = [] ∧ bs = [] := by
  rw [List.length_append, List.length_cons] at h
  exact ⟨List.length_eq_zero_iff.1 (by omega), List.length_eq_zero_iff.1 (by omega)⟩

theorem alone_of_word (hl : s.news.length ≤ 1) (h : s.workers = [.reporting r]) :
    s.news = [r] ∧ s.results = [] ∧ s.alarm = none ∧ s.verdict = none := by
  have hn : s.news =
      [] ++ r :: (s.results ++ ((s.alarm.map .error).toList ++ s.verdict.toList)) :=
    news_of_only h
  rw [hn] at hl
  have rest := (nil_of_length_le hl).2
  rw [rest] at hn
  exact ⟨hn, by simpa using rest⟩

theorem alone_of_results {rs : List (Except Error VirtualMachine)} (hl : s.news.length ≤ 1)
    (hr : s.results = r :: rs) :
    s.news = [r] ∧ s.workers.filterMap Worker.word = [] ∧ rs = [] ∧ s.alarm = none ∧
      s.verdict = none := by
  rw [news, hr, List.cons_append] at hl ⊢
  obtain ⟨hw, hn⟩ := nil_of_length_le hl
  rw [hw, List.nil_append, hn]
  exact ⟨rfl, rfl, by simpa using hn⟩

theorem alone_of_alarm (hl : s.news.length ≤ 1) (ha : s.alarm = some e) :
    s.news = [.error e] ∧ s.workers.filterMap Worker.word = [] ∧ s.results = [] ∧
      s.verdict = none := by
  rw [news, ha, ← List.append_assoc] at hl ⊢
  obtain ⟨hw, hn⟩ := nil_of_length_le hl
  obtain ⟨hw, hr⟩ := List.append_eq_nil_iff.1 hw
  have hv : s.verdict = none := by simpa using hn
  rw [hw, hr, hv]
  exact ⟨rfl, rfl, rfl, rfl⟩

theorem news_report (h : s.workers = [.reporting r]) (hl : s.news.length ≤ 1) :
    (s.report 0 r).news = s.news := by
  obtain ⟨hs, hr, ha, hv⟩ := alone_of_word hl h
  have ht : (s.report 0 r).news =
      [] ++ (s.results ++ [r] ++ ((s.alarm.map .error).toList ++ s.verdict.toList)) :=
    news_of_only (workers_put (s := { s with results := s.results ++ [r] }) h .ended)
  rw [hs, ht, hr, ha, hv]
  rfl

theorem news_of_verdict (hw : s.workers.filterMap Worker.word = []) (hr : s.results = [])
    (ha : s.alarm = none) (hv : s.verdict = some r) : s.news = [r] := by
  rw [news, hw, hr, ha, hv]
  rfl

/-- A move of the coordinator: it changes nothing but where the news are, and it only cancels when
there are any or nobody is left. -/
structure Hears (s t : State R) : Prop where
  net : t.net = s.net
  workers : t.workers = s.workers
  producer : t.stream.producer = s.stream.producer
  queue : t.stream.queue = s.stream.queue
  news : t.news = s.news
  cancelled : t.cancelled = true → s.cancelled = true ∨ s.news ≠ [] ∨
    ∀ w ∈ s.workers, w = .ended

variable [Remote R] {pool : Nat} {es fs : List Event}

theorem hears_result (hl : s.news.length ≤ 1) (hc : Change s .result fs t) : s.Hears t := by
  cases hc with
  | hearMatch _ hr =>
    obtain ⟨hs, hw, rfl, ha, hv⟩ := alone_of_results hl hr
    refine ⟨rfl, rfl, rfl, rfl, ?_, fun _ => .inr (.inl (by simp [hs]))⟩
    refine Eq.trans (news_of_verdict hw rfl ha ?_) hs.symm
    simp [verdict, (verdict_eq_none.1 hv).1]
  | hearFailure _ hr =>
    obtain ⟨hs, hw, rfl, ha, hv⟩ := alone_of_results hl hr
    refine ⟨rfl, rfl, rfl, rfl, ?_, fun _ => .inr (.inl (by simp [hs]))⟩
    refine Eq.trans (news_of_verdict hw rfl ha ?_) hs.symm
    simp [verdict, blame, verdict_eq_none.1 hv]
  | gather hp _ hw =>
    refine ⟨rfl, rfl, rfl, rfl, by simp [news, alarm, verdict, hp],
      fun _ => .inr (.inr fun w hm => Worker.eq_ended (List.all_eq_true.1 hw w hm))⟩

theorem hears_fault (hl : s.news.length ≤ 1) (hc : Change s .fault fs t) : s.Hears t := by
  cases hc with
  | @hearFault e hp _ hf he =>
    have ha : s.alarm = some e := by simp [alarm, hp, hf, he]
    obtain ⟨hs, hw, hr, hv⟩ := alone_of_alarm hl ha
    refine ⟨rfl, rfl, rfl, rfl, ?_, fun _ => .inr (.inl (by simp [hs]))⟩
    refine Eq.trans (news_of_verdict hw hr (by simp [alarm, blame]) ?_) hs.symm
    simp [verdict, blame, verdict_eq_none.1 hv]
  | overhear _ _ hf =>
    exact ⟨rfl, rfl, rfl, rfl, by simp [news, alarm, verdict, hf], .inl⟩
  | deafen => exact ⟨rfl, rfl, rfl, rfl, rfl, .inl⟩

theorem hears_close (ho : Orderly pool es s) (hl : s.news.length ≤ 1)
    (hc : Change s .close fs t) : s.Hears t := by
  cases hc with
  | close _ _ hf =>
    have silent : s.alarm = none := by
      cases hl : s.listening with
      | true => cases he : s.stream.fault <;> simp_all [alarm]
      | false => simp [alarm, (ho.deaf hl).2]
    refine ⟨rfl, rfl, rfl, rfl, ?_, .inl⟩
    rw [news, news, silent]
    rfl
  | @closeFault e hp _ _ hf he =>
    have ha : s.alarm = some e := by simp [alarm, hp, hf, he]
    obtain ⟨hs, hw, hr, hv⟩ := alone_of_alarm hl ha
    refine ⟨rfl, rfl, rfl, rfl, ?_, .inl⟩
    refine Eq.trans (news_of_verdict hw hr (by simp [alarm]) ?_) hs.symm
    simp [verdict, blame, verdict_eq_none.1 hv]

end StorageDriver.Search.State
