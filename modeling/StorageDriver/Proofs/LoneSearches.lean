import StorageDriver.Proofs.CountedCalls
import StorageDriver.Proofs.SearchNews
import StorageDriver.Proofs.SearchRuns

namespace StorageDriver

namespace Plane

/-- Look into the datacenters in order, up to the first that has a match or fails. Answers with
those that were looked into. -/
def scan (p : Plane) (q : Query) : List Datacenter → Except Error VirtualMachine × List Datacenter
  | [] => (.error q.missed, [])
  | d :: ds =>
    match (p.finish (.machines d.id)).1 with
    | .error e => (.error e, [d])
    | .ok ms =>
      match List.find? q.hits ms with
      | some i => (.ok (.ofInfo d i), [d])
      | none => ((p.scan q ds).1, d :: (p.scan q ds).2)

/-- Connect, list the datacenters and scan those that `c` allows. -/
def survey (p : Plane) (c : Center.Config) (q : Query) :
    Except Error VirtualMachine × List Datacenter :=
  match (p.connect c.host).1, (p.finish .datacenters).1 with
  | .error e, _ => (.error e, [])
  | .ok _, .error e => (.error e, [])
  | .ok _, .ok all => p.scan q (Network.select c all)

variable {p : Plane} {c : Center.Config} {q : Query} {d : Datacenter} {seen rest : List Datacenter}
  {all : List DatacenterInfo} {ms : List VmInfo} {e : Error}

def Lacks (p : Plane) (q : Query) (d : Datacenter) : Prop :=
  ∃ ms, (p.finish (.machines d.id)).1 = .ok ms ∧ List.find? q.hits ms = none

theorem scan_append (h : ∀ d ∈ seen, p.Lacks q d) (rest : List Datacenter) :
    p.scan q (seen ++ rest) = ((p.scan q rest).1, seen ++ (p.scan q rest).2) := by
  induction seen with
  | nil => rfl
  | cons d ds ih =>
    obtain ⟨ms, hm, hn⟩ := h d List.mem_cons_self
    rw [List.cons_append, scan, hm]
    dsimp only
    rw [hn, ih fun d' hd => h d' (List.mem_cons_of_mem d hd)]
    rfl

theorem scan_of_error (h : (p.finish (.machines d.id)).1 = .error e) :
    p.scan q (d :: rest) = (.error e, [d]) := by
  rw [scan, h]

theorem scan_of_match {i : VmInfo} (h : (p.finish (.machines d.id)).1 = .ok ms)
    (hi : List.find? q.hits ms = some i) : p.scan q (d :: rest) = (.ok (.ofInfo d i), [d]) := by
  rw [scan, h]
  dsimp only
  rw [hi]

theorem fails_of_refused {host : String} (h : (p.connect host).1 = .error e) :
    p.failures.connect = true := by
  simp only [connect] at h
  split at h
  · assumption
  · cases h

theorem works_of_connected {host : String} (h : (p.connect host).1 = .ok ()) :
    p.failures.connect = false := by
  simp only [connect] at h
  split at h
  · cases h
  · exact Bool.eq_false_iff.2 ‹_›

theorem survey_of_refused (h : (p.connect c.host).1 = .error e) :
    p.survey c q = (.error e, []) := by
  rw [survey, h]

theorem survey_of_unlisted (hc : (p.connect c.host).1 = .ok ())
    (h : (p.finish .datacenters).1 = .error e) : p.survey c q = (.error e, []) := by
  rw [survey, hc, h]

theorem survey_of_listed (hc : (p.connect c.host).1 = .ok ())
    (h : (p.finish .datacenters).1 = .ok all) :
    p.survey c q = p.scan q (Network.select c all) := by
  rw [survey, hc, h]

end Plane

namespace Search

namespace Worker

def asked : Worker → List Datacenter
  | waiting d _ _ => [d]
  | _ => []

theorem word_after_error {e : Error} (h : e.isMiss = false) :
    after (.error e) = reporting (.error e) := by
  simp [after, h]

end Worker

section

variable {f : Fleet} {c : Center.Config} {p k : Plane} {q : Query} {es fs : List Event}
  {s t : State Fleet} {m : Move} {w : Worker} {r : Except Error VirtualMachine}

/-- The producer has not listed the datacenters, and nobody else has anything to do. -/
structure Early (f : Fleet) (c : Center.Config) (k : Plane) (producer : Producer)
    (s : State Fleet) : Prop where
  workers : s.workers = [.idle]
  producer : s.stream.producer = producer
  queue : s.stream.queue = []
  calm : s.cancelled = false
  news : s.news = []
  faces : s.net.Faces f c k

namespace Early

variable {producer : Producer}

theorem wait (h : Early f c k producer s) (time : Nat) : Early f c k producer (s.wait time) :=
  { h with faces := h.faces.wait _ }

theorem hears (h : Early f c k producer s) (ht : s.Hears t) : Early f c k producer t where
  workers := ht.workers.trans h.workers
  producer := ht.producer.trans h.producer
  queue := ht.queue.trans h.queue
  calm := by
    refine Bool.eq_false_iff.2 fun hc => ?_
    obtain hc | hn | hw := ht.cancelled hc
    · cases h.calm.symm.trans hc
    · exact hn h.news
    · cases hw .idle (h.workers ▸ List.mem_singleton_self _)
  news := ht.news.trans h.news
  faces := ht.net ▸ h.faces

theorem not_worker (h : Early f c k producer s) (hp : producer.hasEnded = false) {i : Nat}
    (hc : Change s (.worker i) fs t) : False := by
  have idle {i : Nat} {v : Worker} (hi : s.workers[i]? = some v) : v = .idle :=
    (State.only h.workers hi).2
  cases hc with
  | quit hx => cases h.calm.symm.trans hx
  | take _ _ hq => cases h.queue.symm.trans hq
  | leave _ _ _ he => rw [h.producer, hp] at he; cases he
  | «open» _ hw | unopen _ hw | look _ hw | miss _ hw | report hw => cases idle hw

end Early

/-- The outcome is settled, whoever knows of it, and nobody will ask for anything more. -/
structure Decided (f : Fleet) (c : Center.Config) (k : Plane) (r : Except Error VirtualMachine)
    (w : Worker) (s : State Fleet) : Prop where
  workers : s.workers = [w]
  ahead : s.stream.producer.ahead = []
  hand : w.hand = none
  idle : w = .idle → s.stream.producer = .ended ∧ s.stream.queue = []
  news : s.news = [r]
  faces : s.net.Faces f c k

namespace Decided

theorem wait (h : Decided f c k r w s) (time : Nat) : Decided f c k r w (s.wait time) :=
  { h with faces := h.faces.wait _ }

theorem hears (h : Decided f c k r w s) (ht : s.Hears t) : Decided f c k r w t where
  workers := ht.workers.trans h.workers
  ahead := ht.producer ▸ h.ahead
  hand := h.hand
  idle := by rw [ht.producer, ht.queue]; exact h.idle
  news := ht.news.trans h.news
  faces := ht.net ▸ h.faces

theorem producer (ho : Orderly 1 es s) (h : Decided f c k r w s)
    (hc : Change s .producer fs t) : Decided f c k r w t := by
  have busy (hp : s.stream.producer ≠ .ended) : w ≠ .idle := fun hw => hp (h.idle hw).1
  cases hc with
  | exhaust hp => exact { h with ahead := rfl, idle := fun hw => ⟨rfl, (h.idle hw).2⟩ }
  | stop _ hp =>
    have hp : s.stream.producer ≠ .ended := fun he => by
      simp [he, Producer.isInterruptible] at hp
    exact { h with
      ahead := rfl
      idle := fun hw => absurd hw (busy hp)
      news := (State.news_stop (ho.running hp).1).trans h.news }
  | connect _ hp | refuse _ hp | list _ hp | unlist _ hp =>
    have ha := h.ahead
    rw [hp] at ha
    cases ha
  | visit hp | publish _ hp =>
    have ha := h.ahead
    rw [hp] at ha
    exact { h with ahead := ha, idle := fun hw => absurd hw (busy (by simp [hp])) }
  | unheard _ _ hh => cases hh.symm.trans ho.heard

theorem leave (h : Decided f c k r .idle s) : Decided f c k r .ended (s.put 0 .ended) :=
  { h with
    workers := State.workers_put h.workers _
    hand := rfl
    idle := nofun
    news := (State.news_put (v := .ended) h.workers rfl).trans h.news }

theorem report {r' : Except Error VirtualMachine} (h : Decided f c k r (.reporting r') s) :
    Decided f c k r .ended (s.report 0 r') :=
  have hl : s.news.length ≤ 1 := by rw [h.news]; exact Nat.le_refl 1
  { h with
    workers := State.workers_put h.workers _
    hand := rfl
    idle := nofun
    news := (State.news_report h.workers hl).trans h.news }

theorem worker (h : Decided f c k r w s) {i : Nat} (hc : Change s (.worker i) fs t) :
    Decided f c k r .ended t := by
  cases hc with
  | @quit _ v _ hw hi =>
    obtain ⟨rfl, rfl⟩ := State.only h.workers hw
    obtain rfl : v = .idle := by
      cases v with
      | idle => rfl
      | opening | waiting => cases h.hand
      | reporting | ended => cases hi
    exact h.leave
  | take _ hw hq =>
    obtain ⟨rfl, rfl⟩ := State.only h.workers hw
    cases hq.symm.trans (h.idle rfl).2
  | leave _ hw =>
    obtain ⟨rfl, rfl⟩ := State.only h.workers hw
    exact h.leave
  | «open» _ hw | unopen _ hw | look _ hw | miss _ hw =>
    obtain ⟨rfl, rfl⟩ := State.only h.workers hw
    cases h.hand
  | report hw =>
    obtain ⟨rfl, rfl⟩ := State.only h.workers hw
    exact h.report

end Decided

/-- The datacenters `seen` have no match, and the others are before the worker `w`. -/
structure Scanning (f : Fleet) (c : Center.Config) (p : Plane) (q : Query)
    (all seen : List Datacenter) (w : Worker) (s : State Fleet) : Prop where
  workers : s.workers = [w]
  ahead : s.stream.producer.ahead = []
  order : seen ++ (w.hand.toList ++ (s.stream.queue ++ s.stream.producer.found)) = all
  lacks : ∀ d ∈ seen, p.Lacks q d
  session : ∀ d session due, w = .waiting d session due → session.host = c.host
  ended : w = .ended → s.stream.producer = .ended ∧ s.stream.queue = []
  calm : s.cancelled = true → w = .ended
  news : s.news = []
  joined : s.net.Joined c.host
  faces : s.net.Faces f c (p.served 1 1 (seen ++ w.asked))

namespace Scanning

variable {all seen : List Datacenter}

theorem start {producer : Producer} {n : Network Fleet} (h : Early f c k producer s)
    (hj : n.Joined c.host) (hn : n.Faces f c (p.served 1 1 [])) (all : List Datacenter) :
    Scanning f c p q all [] .idle
      { s with net := n, stream := { s.stream with producer := .publishing all [] } } where
  workers := h.workers
  ahead := rfl
  order := by rw [h.queue]; rfl
  lacks := List.forall_mem_nil _
  session := nofun
  ended := nofun
  calm hx := by cases h.calm.symm.trans hx
  news := h.news
  joined := hj
  faces := hn

theorem wait (h : Scanning f c p q all seen w s) (time : Nat) :
    Scanning f c p q all seen w (s.wait time) :=
  { h with faces := h.faces.wait _ }

theorem hears (h : Scanning f c p q all seen w s) (ht : s.Hears t) :
    Scanning f c p q all seen w t where
  workers := ht.workers.trans h.workers
  ahead := ht.producer ▸ h.ahead
  order := by rw [ht.producer, ht.queue]; exact h.order
  lacks := h.lacks
  session := h.session
  ended := by rw [ht.producer, ht.queue]; exact h.ended
  calm hc := by
    obtain hc | hn | hw := ht.cancelled hc
    · exact h.calm hc
    · exact absurd h.news hn
    · exact hw w (h.workers ▸ List.mem_singleton_self w)
  news := ht.news.trans h.news
  joined := ht.net ▸ h.joined
  faces := ht.net ▸ h.faces

theorem producer (ho : Orderly 1 es s) (h : Scanning f c p q all seen w s)
    (hc : Change s .producer fs t) : Scanning f c p q all seen w t := by
  have busy (hp : s.stream.producer ≠ .ended) : w ≠ .ended := fun hw => hp (h.ended hw).1
  have order := h.order
  have ahead := h.ahead
  cases hc with
  | exhaust hp =>
    rw [hp] at order
    exact { h with ahead := rfl, order := order, ended := fun hw => ⟨rfl, (h.ended hw).2⟩ }
  | stop hx hp => simp [(h.ended (h.calm hx)).1, Producer.isInterruptible] at hp
  | connect _ hp | refuse _ hp | list _ hp | unlist _ hp =>
    rw [hp] at ahead
    cases ahead
  | visit hp =>
    rw [hp] at order ahead
    exact { h with
      ahead := ahead, order := order, ended := fun hw => absurd hw (busy (by simp [hp])) }
  | publish _ hp =>
    rw [hp] at order ahead
    refine { h with
      ahead := ahead, order := ?_, ended := fun hw => absurd hw (busy (by simp [hp])) }
    simpa [Producer.found] using order
  | unheard _ _ hh => cases hh.symm.trans ho.heard

theorem take {d : Datacenter} {ds : List Datacenter} (h : Scanning f c p q all seen .idle s)
    (hc : s.cancelled = false) (hq : s.stream.queue = d :: ds) :
    Scanning f c p q all seen (.opening d)
      ({ s with stream := { s.stream with queue := ds } }.put 0 (.opening d)) :=
  { h with
    workers := State.workers_put
      (s := { s with stream := { s.stream with queue := ds } }) h.workers _
    order := by
      have order := h.order
      rw [hq] at order
      exact order
    session := nofun
    ended := nofun
    calm := fun hx => by cases hc.symm.trans hx
    news := (State.news_put (v := .opening d) h.workers rfl).trans h.news }

theorem leave (h : Scanning f c p q all seen .idle s) (hq : s.stream.queue = [])
    (he : s.stream.producer = .ended) :
    Scanning f c p q all seen .ended (s.put 0 .ended) :=
  { h with
    workers := State.workers_put h.workers _
    session := nofun
    ended := fun _ => ⟨he, hq⟩
    calm := fun _ => rfl
    news := (State.news_put (v := .ended) h.workers rfl).trans h.news }

theorem «open» {d : Datacenter} {session : Session} {due : Nat} {n₁ n₂ : Network Fleet}
    (h : Scanning f c p q all seen (.opening d) s) (hd : d.host = c.host)
    (hc : s.cancelled = false) (hn : (Network.client d.host).run.run s.net = (.ok session, n₁))
    (hs : (Network.start session (.machines d.id)).run n₁ = (due, n₂)) :
    Scanning f c p q all seen (.waiting d session due)
      ({ s with net := n₂ }.put 0 (.waiting d session due)) := by
  rw [hd] at hn
  obtain ⟨session', he, host, rfl⟩ := h.faces.client h.joined hn
  obtain rfl := Except.ok.inj he
  obtain ⟨faces, centers⟩ := h.faces.start host hs
  exact { h with
    workers := State.workers_put (s := { s with net := n₂ }) h.workers _
    session := fun d' session' due' hw => by
      obtain ⟨-, rfl, -⟩ := Worker.waiting.inj hw
      exact host
    ended := nofun
    calm := fun hx => by cases hc.symm.trans hx
    news := (State.news_put (v := .waiting d session due) h.workers rfl).trans h.news
    joined := h.joined.of_centers centers
    faces := by
      change n₂.Faces f c ((p.served 1 1 (seen ++ [])).start (.machines d.id)).2 at faces
      rwa [List.append_nil, Plane.start_served] at faces }

section

variable {d : Datacenter} {session : Session} {due : Nat} {n : Network Fleet}
  {x : Except Error (List VmInfo)} (h : Scanning f c p q all seen (.waiting d session due) s)
  (hn : (Network.finish session (.machines d.id)).run.run s.net = (x, n))
include h hn

theorem answer : (p.finish (.machines d.id)).1 = x ∧ n.Faces f c (p.served 1 1 (seen ++ [d])) ∧
    n.Joined c.host := by
  obtain ⟨rfl, faces, centers⟩ := h.faces.finish (h.session d session due rfl) hn
  rw [Plane.machines_served] at faces ⊢
  exact ⟨rfl, faces, h.joined.of_centers centers⟩

theorem pass (hc : s.cancelled = false) (hl : p.Lacks q d) :
    Scanning f c p q all (seen ++ [d]) .idle ({ s with net := n }.put 0 .idle) := by
  obtain ⟨-, faces, joined⟩ := h.answer hn
  exact { h with
    workers := State.workers_put (s := { s with net := n }) h.workers _
    order := by
      rw [List.append_assoc]
      exact h.order
    lacks := fun d' hd => by
      obtain hd | hd := List.mem_append.1 hd
      · exact h.lacks d' hd
      · exact List.mem_singleton.1 hd ▸ hl
    session := nofun
    ended := nofun
    calm := fun hx => by cases hc.symm.trans hx
    news := (State.news_put (v := .idle) h.workers rfl).trans h.news
    joined := joined
    faces := by
      show n.Faces f c (p.served 1 1 (seen ++ [d] ++ []))
      rwa [List.append_nil] }

theorem settle (hr : ∀ rest, p.scan q (d :: rest) = (r, [d])) :
    Decided f c (p.served 1 1 (p.scan q all).2) (p.scan q all).1 (.reporting r)
      ({ s with net := n }.put 0 (.reporting r)) := by
  obtain ⟨-, faces, -⟩ := h.answer hn
  have hs : p.scan q all = (r, seen ++ [d]) := by
    rw [← h.order, Plane.scan_append h.lacks]
    show ((p.scan q (d :: _)).1, seen ++ (p.scan q (d :: _)).2) = _
    rw [hr]
  rw [hs]
  exact {
    workers := State.workers_put (s := { s with net := n }) h.workers _
    ahead := h.ahead
    hand := rfl
    idle := nofun
    news := State.news_put_of_word (s := { s with net := n }) h.workers h.news rfl
    faces := faces }

end

theorem worker (hq : s.query = q) (hosts : ∀ d ∈ all, d.host = c.host)
    (h : Scanning f c p q all seen w s) {i : Nat} (hc : Change s (.worker i) fs t) :
    (∃ seen w, Scanning f c p q all seen w t) ∨
      ∃ w, Decided f c (p.served 1 1 (p.scan q all).2) (p.scan q all).1 w t := by
  have held {d : Datacenter} (hd : w.hand = some d) : d.host = c.host := by
    refine hosts d ?_
    rw [← h.order, hd]
    simp
  subst hq
  cases hc with
  | @quit _ v hx hw hi =>
    obtain ⟨rfl, rfl⟩ := State.only h.workers hw
    rw [h.calm hx] at hi
    cases hi
  | take hx hw hd =>
    obtain ⟨rfl, rfl⟩ := State.only h.workers hw
    exact .inl ⟨_, _, h.take hx hd⟩
  | leave _ hw hd he =>
    obtain ⟨rfl, rfl⟩ := State.only h.workers hw
    exact .inl ⟨_, _, h.leave hd (Producer.eq_ended he)⟩
  | «open» hx hw hn hs =>
    obtain ⟨rfl, rfl⟩ := State.only h.workers hw
    exact .inl ⟨_, _, h.open (held rfl) hx hn hs⟩
  | unopen _ hw hn =>
    obtain ⟨rfl, rfl⟩ := State.only h.workers hw
    rw [held rfl] at hn
    obtain ⟨_, he, -⟩ := h.faces.client h.joined hn
    cases he
  | @look _ d _ _ ms n hx hw hn =>
    obtain ⟨rfl, rfl⟩ := State.only h.workers hw
    have ha := (h.answer hn).1
    cases hm : List.find? s.query.hits ms with
    | none =>
      have hr : s.query.answer d ms = .error s.query.missed := by simp [Query.answer, hm]
      rw [hr]
      exact .inl ⟨_, _, h.pass hn hx ⟨ms, ha, hm⟩⟩
    | some i =>
      have hr : s.query.answer d ms = .ok (.ofInfo d i) := by simp [Query.answer, hm]
      rw [hr]
      exact .inr ⟨_, h.settle hn fun _ => Plane.scan_of_match ha hm⟩
  | @miss _ d _ _ e n _ hw hn =>
    obtain ⟨rfl, rfl⟩ := State.only h.workers hw
    have ha := (h.answer hn).1
    rw [Worker.word_after_error (Plane.isPlain_of_finish ha).1]
    exact .inr ⟨_, h.settle hn fun _ => Plane.scan_of_error ha⟩
  | report hw =>
    obtain ⟨rfl, rfl⟩ := State.only h.workers hw
    have hn := h.news
    rw [State.news_of_only h.workers] at hn
    cases hn

end Scanning

/-- How far a search with one worker before the plane `p` has come. -/
inductive Lone (f : Fleet) (c : Center.Config) (p : Plane) (q : Query) (s : State Fleet) : Prop
  | calling (h : Early f c (p.served 0 0 []) (.visiting [c]) s)
  | listing (hc : (p.connect c.host).1 = .ok ()) (hj : s.net.Joined c.host)
      (h : Early f c (p.served 1 0 []) (.listing c []) s)
  | scanning {all : List DatacenterInfo} {seen : List Datacenter} {w : Worker}
      (hc : (p.connect c.host).1 = .ok ()) (hl : (p.finish .datacenters).1 = .ok all)
      (h : Scanning f c p q (Network.select c all) seen w s)
  | decided {w : Worker} (h : Decided f c
      (p.served 1 (if p.failures.connect then 0 else 1) (p.survey c q).2) (p.survey c q).1 w s)

namespace Lone

theorem wait (h : Lone f c p q s) (time : Nat) : Lone f c p q (s.wait time) := by
  cases h with
  | calling h => exact .calling (h.wait time)
  | listing hc hj h => exact .listing hc hj (h.wait time)
  | scanning hc hl h => exact .scanning hc hl (h.wait time)
  | decided h => exact .decided (h.wait time)

theorem hears (h : Lone f c p q s) (ht : s.Hears t) : Lone f c p q t := by
  cases h with
  | calling h => exact .calling (h.hears ht)
  | listing hc hj h => exact .listing hc (ht.net ▸ hj) (h.hears ht)
  | scanning hc hl h => exact .scanning hc hl (h.hears ht)
  | decided h => exact .decided (h.hears ht)

theorem length_news_le (h : Lone f c p q s) : s.news.length ≤ 1 := by
  cases h with
  | calling h | listing _ _ h | scanning _ _ h | decided h => rw [h.news]; simp

theorem of_fail {producer : Producer} {n : Network Fleet} {e : Error} (ho : Orderly 1 es s)
    (h : Early f c k producer s) (he : e.IsPlain) {l : Plane} (hn : n.Faces f c l) :
    Decided f c l (.error e) .idle { s with net := n, stream := s.stream.fail e } where
  workers := h.workers
  ahead := rfl
  hand := rfl
  idle _ := ⟨rfl, h.queue⟩
  news := by
    have hd : s.phase ≠ .done := by
      have hw : s.workers[0]? = some .idle := by rw [h.workers]; rfl
      rw [ho.gathering hw (by simp)]
      simp
    exact State.news_fail h.news hd he.2 n
  faces := hn

theorem connect (ho : Orderly 1 es s) (h : Early f c (p.served 0 0 []) (.visiting [c]) s)
    (hc : Change s .producer fs t) : Lone f c p q t := by
  have producer {r : Producer} (hp : s.stream.producer = r) : .visiting [c] = r :=
    h.producer.symm.trans hp
  cases hc with
  | exhaust hp | list _ hp | unlist _ hp | visit hp | unheard _ hp | publish _ hp =>
    cases producer hp
  | stop hx => cases h.calm.symm.trans hx
  | connect _ hp hn =>
    cases producer hp
    obtain ⟨answer, faces, joined⟩ := h.faces.connect hn
    rw [Plane.connect_served] at answer faces
    exact .listing answer (joined rfl) { h with producer := rfl, faces := faces }
  | refuse _ hp hn =>
    cases producer hp
    obtain ⟨answer, faces, -⟩ := h.faces.connect hn
    rw [Plane.connect_served] at answer faces
    refine .decided (w := .idle) ?_
    rw [Plane.survey_of_refused answer, Plane.fails_of_refused answer]
    exact of_fail ho h (Plane.isPlain_of_connect answer) faces

theorem list (ho : Orderly 1 es s) (hc : (p.connect c.host).1 = .ok ())
    (hj : s.net.Joined c.host) (h : Early f c (p.served 1 0 []) (.listing c []) s)
    (hx : Change s .producer fs t) : Lone f c p q t := by
  have producer {r : Producer} (hp : s.stream.producer = r) : .listing c [] = r :=
    h.producer.symm.trans hp
  cases hx with
  | exhaust hp | connect _ hp | refuse _ hp | visit hp | unheard _ hp | publish _ hp =>
    cases producer hp
  | stop hx => cases h.calm.symm.trans hx
  | list _ hp hn =>
    cases producer hp
    obtain ⟨answer, faces, joined⟩ := h.faces.datacenters hj hn
    rw [Plane.datacenters_served] at answer faces
    cases hl : (p.finish .datacenters).1 with
    | error e => rw [hl] at answer; cases answer
    | ok all =>
      rw [hl] at answer
      obtain rfl := Except.ok.inj answer
      exact .scanning hc hl (.start h joined faces _)
  | unlist _ hp hn =>
    cases producer hp
    obtain ⟨answer, faces, -⟩ := h.faces.datacenters hj hn
    rw [Plane.datacenters_served] at answer faces
    cases hl : (p.finish .datacenters).1 with
    | ok all => rw [hl] at answer; cases answer
    | error e =>
      rw [hl] at answer
      obtain rfl := Except.error.inj answer
      refine .decided (w := .idle) ?_
      rw [Plane.survey_of_unlisted hc hl, Plane.works_of_connected hc]
      exact of_fail ho h (Plane.isPlain_of_finish hl) faces

theorem change (ho : Orderly 1 es s) (hq : s.query = q) (h : Lone f c p q s)
    (ha : t.abandoned = false) (hc : Change s m fs t) : Lone f c p q t := by
  cases m with
  | producer =>
    cases h with
    | calling h => exact connect ho h hc
    | listing hx hj h => exact list ho hx hj h hc
    | scanning hx hl h => exact .scanning hx hl (h.producer ho hc)
    | decided h => exact .decided (h.producer ho hc)
  | worker i =>
    cases h with
    | calling h => exact (h.not_worker rfl hc).elim
    | listing _ _ h => exact (h.not_worker rfl hc).elim
    | @scanning all _ _ hx hl h =>
      have hosts : ∀ d ∈ Network.select c all, d.host = c.host := fun d hd => by
        obtain ⟨i, -, rfl⟩ := List.mem_map.1 hd
        rfl
      obtain ⟨_, _, h⟩ | ⟨w, h⟩ := h.worker hq hosts hc
      · exact .scanning hx hl h
      · rw [← Plane.survey_of_listed hx hl] at h
        refine .decided (w := w) ?_
        rwa [Plane.works_of_connected hx]
    | decided h => exact .decided (h.worker hc)
  | result => exact h.hears (State.hears_result h.length_news_le hc)
  | fault => exact h.hears (State.hears_fault h.length_news_le hc)
  | close => exact h.hears (State.hears_close ho h.length_news_le hc)
  | abandon => cases hc; cases ha

theorem start {n : Network Fleet} (hn : n.Proper) {host : String} {hd : Center.Handle}
    (hc : n.centers = [(host, hd)]) (hp : n.planes.get? host = some p) (q : Query) :
    Lone n.planes hd.config p q (start q 1 false n) := by
  have hh : n.centers.get? host = some hd := by
    rw [hc, Table.get?_cons, if_pos rfl]
  obtain rfl : hd.config.host = host := (hn host hd hh).1
  refine .calling {
    workers := rfl
    producer := by
      show Producer.visiting (n.centers.map (·.2.config)) = _
      rw [hc]
      rfl
    queue := rfl
    calm := rfl
    news := rfl
    faces := ⟨hn, fun c hm => ?_, ?_⟩ }
  · obtain rfl := List.mem_singleton.1 hm
    exact congrArg (Option.map (·.config)) hh
  · rw [Plane.served_zero]
    exact (Table.put_of_get? hp).symm

theorem outcome (ho : Orderly 1 es s) (hd : s.phase = .done) (hq : s.query = q)
    (ha : s.abandoned = false) (h : Lone f c p q s) :
    s.outcome = (p.survey c q).1 ∧
      s.net.planes =
        f.put c.host (p.served 1 (if p.failures.connect then 0 else 1) (p.survey c q).2) := by
  obtain ⟨results, ended⟩ := ho.settled (by simp [hd])
  have news {w : Worker} (hw : s.workers = [w]) : s.news = s.verdict.toList := by
    rw [State.news_of_only hw, ended w (hw ▸ List.mem_singleton_self w), results]
    simp [State.alarm, hd, Worker.word]
  cases h with
  | calling h | listing _ _ h => cases ended .idle (h.workers ▸ List.mem_singleton_self _)
  | @scanning all seen w hc hl h =>
    obtain rfl : w = .ended := ended w (h.workers ▸ List.mem_singleton_self w)
    obtain ⟨hp, hs⟩ := h.ended rfl
    have looked : p.survey c q = (.error q.missed, seen) := by
      have order := h.order
      rw [hp, hs] at order
      rw [Plane.survey_of_listed hc hl, ← order, Plane.scan_append h.lacks]
      exact Prod.ext rfl (List.append_nil seen)
    have faces := h.faces.planes
    rw [looked, Plane.works_of_connected hc, State.outcome_eq, ha, hq]
    have hv : s.verdict = none := by simpa using (news h.workers).symm.trans h.news
    refine ⟨by rw [hv]; rfl, ?_⟩
    rwa [show seen ++ Worker.ended.asked = seen from List.append_nil seen] at faces
  | decided h =>
    have hv : s.verdict = some (p.survey c q).1 := by
      simpa using (news h.workers).symm.trans h.news
    exact ⟨by rw [State.outcome_eq, hv]; rfl, h.faces.planes⟩

end Lone

end

theorem lone_follow {n : Network Fleet} (hn : n.Proper) {host : String} {hd : Center.Handle}
    (hc : n.centers = [(host, hd)]) {p : Plane} (hp : n.planes.get? host = some p) {q : Query}
    {ms : List (Nat × Move)} {s : State Fleet} {es : List Event}
    (h : (start q 1 false n).follow ms = some (s, es)) :
    Orderly 1 es s ∧ s.query = q ∧ (s.abandoned = false → Lone n.planes hd.config p q s) := by
  refine follow_induction (P := fun es s => Orderly 1 es s ∧ s.query = q ∧
      (s.abandoned = false → Lone n.planes hd.config p q s))
    ⟨.start n q 1 false, rfl, fun _ => .start hn hc hp q⟩
    (fun _ _ time hu => ⟨hu.1.wait time, hu.2.1, fun ha => (hu.2.2 ha).wait time⟩) ?_ h
  intro es fs m u v ⟨ho, hq, hl⟩ hc
  refine ⟨ho.change hc, ?_, fun ha => ?_⟩
  · cases hc <;> exact hq
  · -- Nobody who has given up comes back.
    have hu : u.abandoned = false := by cases hc <;> first | exact ha | cases ha
    exact (hl hu).change ho hq ha hc

/-- With one worker and one center registered, a search is a scan of the datacenters in order, in
whatever order the parties move. It connects once and lists the datacenters once, if the plane lets
it connect, and it asks for the machines of the datacenters that the scan looks into and of no
other. -/
theorem sought_in_order {n : Network Fleet} (hn : n.Proper) {host : String} {hd : Center.Handle}
    (hc : n.centers = [(host, hd)]) {p : Plane} (hp : n.planes.get? host = some p) {q : Query}
    (hq : q.isEmpty = false) :
    let outcome := (p.survey hd.config q).1
    let seen := (p.survey hd.config q).2
    let planes := n.planes.put host (p.served 1 (if p.failures.connect then 0 else 1) seen)
    (∃ m, (Network.search 1 .endless q).run.run n = (outcome, m) ∧ m.planes = planes) ∧
      ∀ ms s es, (start q 1 false n).follow ms = some (s, es) → s.phase = .done →
        s.abandoned = false → s.outcome = outcome ∧ s.net.planes = planes := by
  obtain rfl : hd.config.host = host := by
    refine (hn host hd ?_).1
    rw [hc, Table.get?_cons, if_pos rfl]
  intro outcome seen planes
  have followed : ∀ ms s es, (start q 1 false n).follow ms = some (s, es) → s.phase = .done →
      s.abandoned = false → s.outcome = outcome ∧ s.net.planes = planes := by
    intro ms s es h hd' ha
    obtain ⟨ho, hquery, hl⟩ := lone_follow hn hc hp h
    exact (hl ha).outcome ho hd' hquery ha
  refine ⟨?_, followed⟩
  obtain ⟨ms, es, h⟩ := exists_follow_run none (start q 1 false n)
  obtain ⟨done, abandoned⟩ := State.ends_of_run (.start n q 1 false)
  obtain ⟨answer, left⟩ := followed ms _ es h done abandoned
  refine ⟨_, ?_, left⟩
  rw [← answer]
  show Network.search 1 .endless q n = _
  unfold Network.search
  rw [if_neg (by simp [hq])]
  rfl

/-- The second of three datacenters has the machine, and the third is left alone. -/
theorem sought_in_order_second :
    let machine : VmInfo := { id := "vm-1", name := "a", uuid := "u", datacenter := "dc-2" }
    let plane : Plane := {
      host := "vc"
      datacenters := [{ id := "dc-1" }, { id := "dc-2" }, { id := "dc-3" }]
      machines := [machine] }
    let n := Network.register { planes := Fleet.ofPlanes [plane] } plane.config
    ∃ m, (Network.search 1 .endless ⟨"a", ""⟩).run.run n =
        (.ok (.ofInfo ⟨"dc-2", "", "vc"⟩ machine), m) ∧
      m.planes = [("vc", plane.served 1 1 [⟨"dc-1", "", "vc"⟩, ⟨"dc-2", "", "vc"⟩])] := by
  intro machine plane n
  have hn : n.Proper := (Network.proper_of_planes _).register _
  exact (sought_in_order hn rfl rfl (q := ⟨"a", ""⟩) rfl).1

end Search

end StorageDriver
