import StorageDriver.Proofs.Connections
import StorageDriver.Proofs.Crowd
import StorageDriver.Proofs.SearchReports

namespace StorageDriver.Search

variable {R : Type}

/-- What happens to an item of the stream. `worker` is the one who does it: it takes the item,
begins to look into it and gets an answer. -/
inductive Mark
  | publish (d : Datacenter)
  | take (worker : Nat) (d : Datacenter)
  | enter (worker : Nat) (d : Datacenter)
  | look (worker : Nat) (d : Datacenter)
deriving DecidableEq, Repr

/-- What a worker did that was in the first state and is in the second one. Who ends has left its
datacenter as it was. -/
def Worker.marks (i : Nat) : Worker → Worker → List Mark
  | _, .ended => []
  | _, .opening d => [.take i d]
  | .opening d, _ => [.enter i d]
  | .waiting d _ _, _ => [.look i d]
  | _, _ => []

namespace State

/-- What was done by a move from `s` to `t`. -/
def marks (s t : State R) : Move → List Mark
  | .producer => (t.stream.queue.drop s.stream.queue.length).map .publish
  | .worker i =>
    match s.workers[i]?, t.workers[i]? with
    | some w, some v => w.marks i v
    | _, _ => []
  | _ => []

/-- All that was done by moves made one after another, up to the first that cannot be made. -/
def history [Remote R] (s : State R) : List (Nat × Move) → List Mark
  | [] => []
  | (time, m) :: ms =>
    match (s.wait time).step m with
    | some t => (s.wait time).marks t m ++ t.history ms
    | none => []

theorem marks_producer {s : State R} (n : Network R) {u : Stream}
    (h : u.queue = s.stream.queue) : s.marks { s with net := n, stream := u } .producer = [] := by
  simp [marks, h]

theorem marks_publish (s : State R) (p : Producer) (d : Datacenter) :
    s.marks { s with stream := { s.stream with producer := p, queue := s.stream.queue ++ [d] } }
      .producer = [.publish d] := by
  simp [marks]

theorem marks_put {s : State R} {i : Nat} {w : Worker} (hi : s.workers[i]? = some w) (v : Worker)
    (n : Network R) (u : Stream) (rs : List (Except Error VirtualMachine)) :
    s.marks ({ s with net := n, stream := u, results := rs }.put i v) (.worker i) =
      w.marks i v := by
  simp only [marks, put, hi, List.getElem?_set_self (List.getElem?_eq_some_iff.1 hi).1]

end State

/-- `published` lists the items in order and `taken` counts those that were taken. `held` is the
position of the item that a worker took last. `entered` and `looked` list the items that somebody
began to look into and those that were looked into, by position and datacenter. -/
structure Ledger where
  published : List Datacenter := []
  taken : Nat := 0
  held : Nat → Option Nat := fun _ => none
  entered : List (Option Nat × Datacenter) := []
  looked : List (Option Nat × Datacenter) := []

namespace Ledger

def note (l : Ledger) : Mark → Ledger
  | .publish d => { l with published := l.published ++ [d] }
  | .take i _ =>
    { l with taken := l.taken + 1, held := fun j => if j = i then some l.taken else l.held j }
  | .enter i d => { l with entered := l.entered ++ [(l.held i, d)] }
  | .look i d => { l with looked := l.looked ++ [(l.held i, d)] }

def ofMarks (ms : List Mark) : Ledger := ms.foldl note {}

theorem ofMarks_append (ms ns : List Mark) :
    ofMarks (ms ++ ns) = ns.foldl note (ofMarks ms) := List.foldl_append

/-- The item that worker `i` took last is `d`, which nobody has looked into. Somebody has begun to,
or not. -/
def Holds (l : Ledger) (i : Nat) (d : Datacenter) (begun : Prop) : Prop :=
  ∃ k, l.held i = some k ∧ l.published[k]? = some d ∧ some k ∉ l.looked.map (·.1) ∧
    (some k ∈ l.entered.map (·.1) ↔ begun)

/-- No two workers took one item. -/
def Apart (l : Ledger) : Prop := ∀ i j k, l.held i = some k → l.held j = some k → i = j

section

variable {l : Ledger} {i j : Nat} {d e : Datacenter} {begun : Prop}

theorem getElem?_publish {k : Nat} (h : l.published[k]? = some d) :
    (l.note (.publish e)).published[k]? = some d := by
  show (l.published ++ [e])[k]? = some d
  rw [List.getElem?_append_left (List.getElem?_eq_some_iff.1 h).1]
  exact h

theorem Holds.publish (h : l.Holds i d begun) : (l.note (.publish e)).Holds i d begun :=
  have ⟨k, hk, hd, hb⟩ := h
  ⟨k, hk, getElem?_publish hd, hb⟩

theorem Holds.take (h : l.Holds i d begun) (hn : i ≠ j) : (l.note (.take j e)).Holds i d begun :=
  have ⟨k, hk, hb⟩ := h
  ⟨k, (if_neg hn).trans hk, hb⟩

theorem Holds.enter (h : l.Holds i d begun) (ha : l.Apart) (hn : i ≠ j) :
    (l.note (.enter j e)).Holds i d begun := by
  obtain ⟨k, hk, hd, hl, hb⟩ := h
  have hj : l.held j ≠ some k := fun hj => hn (ha i j k hk hj)
  refine ⟨k, hk, hd, hl, ?_⟩
  simpa [note, Ne.symm hj] using hb

theorem Holds.look (h : l.Holds i d begun) (ha : l.Apart) (hn : i ≠ j) :
    (l.note (.look j e)).Holds i d begun := by
  obtain ⟨k, hk, hd, hl, hb⟩ := h
  have hj : l.held j ≠ some k := fun hj => hn (ha i j k hk hj)
  refine ⟨k, hk, hd, ?_, hb⟩
  simpa [note, Ne.symm hj] using hl

theorem Holds.entered (h : l.Holds i d False) : (l.note (.enter i d)).Holds i d True := by
  obtain ⟨k, hk, hd, hl, -⟩ := h
  exact ⟨k, hk, hd, hl, by simp [note, hk]⟩

end

end Ledger

def Allowed (centers : List Center.Config) (d : Datacenter) : Prop :=
  ∃ c ∈ centers, d.host = c.host ∧ c.allows d.id d.name = true

theorem allowed_of_select {centers : List Center.Config} {c : Center.Config} (hc : c ∈ centers)
    {all : List DatacenterInfo} {d : Datacenter} (h : d ∈ Network.select c all) :
    Allowed centers d := by
  obtain ⟨i, hi, rfl⟩ := List.mem_map.1 h
  exact ⟨c, hc, rfl, (List.mem_filter.1 hi).2⟩

def Event.opened? : Event → Option Datacenter
  | .opened d _ => some d
  | _ => none

def Event.searched? : Event → Option Datacenter
  | .searched d _ => some d
  | _ => none

/-- The books agree with the parties: what is in the queue was published and not yet taken, and the
item in a worker's hand is its own and is looked into once. -/
structure Kept (centers : List Center.Config) (es : List Event) (l : Ledger) (s : State R) :
    Prop where
  ahead : ∀ c ∈ s.stream.producer.ahead, c ∈ centers
  found : ∀ d ∈ s.stream.producer.found, Allowed centers d
  published : ∀ d ∈ l.published, Allowed centers d
  queue : l.published.drop l.taken = s.stream.queue
  taken : l.taken ≤ l.published.length
  held : ∀ i k, l.held i = some k → k < l.taken
  apart : l.Apart
  opening : ∀ i d, s.workers[i]? = some (.opening d) → l.Holds i d False
  waiting : ∀ i d session due, s.workers[i]? = some (.waiting d session due) → l.Holds i d True
  entered : ∀ p ∈ l.entered, ∃ k, p.1 = some k ∧ k < l.taken ∧ l.published[k]? = some p.2
  looked : ∀ p ∈ l.looked, p ∈ l.entered
  enteredOnce : (l.entered.map (·.1)).Nodup
  lookedOnce : (l.looked.map (·.1)).Nodup
  opened : es.filterMap Event.opened? = l.entered.map (·.2)
  searched : es.filterMap Event.searched? = l.looked.map (·.2)

theorem nodup_concat {α : Type} {as : List α} {a : α} (h : as.Nodup) (ha : a ∉ as) :
    (as ++ [a]).Nodup := by
  refine List.nodup_append.2 ⟨h, List.nodup_cons.2 ⟨List.not_mem_nil, List.nodup_nil⟩, ?_⟩
  intro b hb c hc hbc
  exact ha (List.mem_singleton.1 hc ▸ hbc ▸ hb)

namespace Kept

variable {centers : List Center.Config} {es fs : List Event} {l : Ledger} {s t : State R}

theorem start (n : Network R) (q : Query) (pool : Nat) (spent : Bool) :
    Kept (n.centers.map (·.2.config)) [] {} (start q pool spent n) where
  ahead _ hc := hc
  found := nofun
  published := nofun
  queue := rfl
  taken := Nat.le_refl _
  held := nofun
  apart := nofun
  opening _ _ hi := nomatch List.eq_of_mem_replicate (List.mem_of_getElem? hi)
  waiting _ _ _ _ hi := nomatch List.eq_of_mem_replicate (List.mem_of_getElem? hi)
  entered := nofun
  looked := nofun
  enteredOnce := List.nodup_nil
  lookedOnce := List.nodup_nil
  opened := rfl
  searched := rfl

theorem wait (h : Kept centers es l s) (time : Nat) : Kept centers es l (s.wait time) := { h with }

theorem append (h : Kept centers es l s) (ho : fs.filterMap Event.opened? = [])
    (hs : fs.filterMap Event.searched? = []) : Kept centers (es ++ fs) l s :=
  { h with
    opened := by
      rw [List.filterMap_append, ho, List.append_nil]
      exact h.opened
    searched := by
      rw [List.filterMap_append, hs, List.append_nil]
      exact h.searched }

theorem produce (h : Kept centers es l s) (n : Network R) {u : Stream}
    (hq : u.queue = s.stream.queue) (ha : ∀ c ∈ u.producer.ahead, c ∈ centers)
    (hf : ∀ d ∈ u.producer.found, Allowed centers d) :
    Kept centers es ((s.marks { s with net := n, stream := u } .producer).foldl Ledger.note l)
      { s with net := n, stream := u } := by
  rw [State.marks_producer n hq]
  exact { h with ahead := ha, found := hf, queue := h.queue.trans hq.symm }

theorem fail (h : Kept centers es l s) (n : Network R) (e : Error) :
    Kept centers es
      ((s.marks { s with net := n, stream := s.stream.fail e } .producer).foldl Ledger.note l)
      { s with net := n, stream := s.stream.fail e } :=
  h.produce n rfl (fun _ hc => nomatch hc) fun _ hd => nomatch hd

theorem publish {d : Datacenter} {ds : List Datacenter} {cs : List Center.Config}
    (h : Kept centers es l s) (hp : s.stream.producer = .publishing (d :: ds) cs) :
    Kept centers es (l.note (.publish d)) { s with stream :=
      { s.stream with producer := .publishing ds cs, queue := s.stream.queue ++ [d] } } := by
  have allowed : ∀ e ∈ d :: ds, Allowed centers e := fun e he => h.found e (hp ▸ he)
  refine { h with
    ahead := fun c hc => h.ahead c (hp ▸ hc)
    found := fun e he => allowed e (List.mem_cons_of_mem _ he)
    published := fun e he => ?_
    queue := ?_
    taken := ?_
    opening := fun i e hi => (h.opening i e hi).publish
    waiting := fun i e session due hi => (h.waiting i e session due hi).publish
    entered := fun p hm => ?_ }
  · obtain he | he := List.mem_append.1 he
    · exact h.published e he
    · exact allowed e (List.mem_singleton.1 he ▸ List.mem_cons_self)
  · show (l.published ++ [d]).drop l.taken = _
    rw [List.drop_append_of_le_length h.taken, h.queue]
  · show l.taken ≤ (l.published ++ [d]).length
    rw [List.length_append]
    exact Nat.le_add_right_of_le h.taken
  · obtain ⟨k, hk, hl, hd⟩ := h.entered p hm
    exact ⟨k, hk, hl, Ledger.getElem?_publish hd⟩

theorem put {i : Nat} {w v : Worker} (h : Kept centers es l s) (hi : s.workers[i]? = some w)
    (hv : v.hand = none) : Kept centers es l (s.put i v) :=
  { h with
    opening := fun j d hj => by
      obtain ⟨rfl, rfl⟩ | ⟨hn, hj⟩ := (getElem?_set_iff hi).1 hj
      · cases hv
      · exact h.opening j d hj
    waiting := fun j d session due hj => by
      obtain ⟨rfl, rfl⟩ | ⟨hn, hj⟩ := (getElem?_set_iff hi).1 hj
      · cases hv
      · exact h.waiting j d session due hj }

theorem take {i : Nat} {d : Datacenter} {ds : List Datacenter} (h : Kept centers es l s)
    (hi : s.workers[i]? = some .idle) (hq : s.stream.queue = d :: ds) :
    Kept centers es (l.note (.take i d))
      ({ s with stream := { s.stream with queue := ds } }.put i (.opening d)) := by
  have hd : l.published.drop l.taken = d :: ds := h.queue.trans hq
  have hn : l.published[l.taken]? = some d := by
    rw [← List.head?_drop, hd]
    rfl
  have fresh : ∀ j, l.held j ≠ some l.taken := fun j hj => Nat.lt_irrefl _ (h.held j _ hj)
  have untouched : some l.taken ∉ l.entered.map (·.1) := fun hm => by
    obtain ⟨p, hp, he⟩ := List.mem_map.1 hm
    obtain ⟨k, hk, hl, -⟩ := h.entered p hp
    exact absurd (Option.some.inj (hk.symm.trans he)) (Nat.ne_of_lt hl)
  refine { h with
    queue := ?_
    taken := (List.getElem?_eq_some_iff.1 hn).1
    held := fun j k hj => ?_
    apart := fun j j' k hj hj' => ?_
    opening := fun j e hj => ?_
    waiting := fun j e session due hj => ?_
    entered := fun p hp => ?_ }
  · show l.published.drop (l.taken + 1) = ds
    rw [← List.drop_drop, hd]
    rfl
  · simp only [Ledger.note] at hj ⊢
    split at hj
    · obtain rfl := Option.some.inj hj
      exact Nat.lt_succ_self _
    · exact Nat.lt_succ_of_lt (h.held j k hj)
  · simp only [Ledger.note] at hj hj'
    split at hj <;> split at hj'
    · rename_i h₁ h₂
      exact h₁.trans h₂.symm
    · obtain rfl := Option.some.inj hj
      exact absurd hj' (fresh j')
    · obtain rfl := Option.some.inj hj'
      exact absurd hj (fresh j)
    · exact h.apart j j' k hj hj'
  · obtain ⟨rfl, he⟩ | ⟨hn', hj⟩ := (getElem?_set_iff hi).1 hj
    · obtain rfl := Worker.opening.inj he
      refine ⟨l.taken, if_pos rfl, hn, fun hm => ?_, iff_false_intro untouched⟩
      obtain ⟨p, hp, he⟩ := List.mem_map.1 hm
      exact untouched (he ▸ List.mem_map_of_mem (h.looked p hp))
    · exact (h.opening j e hj).take hn'
  · obtain ⟨-, he⟩ | ⟨hn', hj⟩ := (getElem?_set_iff hi).1 hj
    · cases he
    · exact (h.waiting j e session due hj).take hn'
  · obtain ⟨k, hk, hl, hd⟩ := h.entered p hp
    exact ⟨k, hk, Nat.lt_succ_of_lt hl, hd⟩

theorem enter {i : Nat} {d : Datacenter} {r : Except Error Session} {v : Worker}
    (h : Kept centers es l s) (hi : s.workers[i]? = some (.opening d))
    (hv : v.hand = none ∨ ∃ session due, v = .waiting d session due) (n : Network R) :
    Kept centers (es ++ [.opened d r]) (l.note (.enter i d)) ({ s with net := n }.put i v) := by
  have ⟨k, hk, hd, hl, hb⟩ := h.opening i d hi
  refine { h with
    opening := fun j e hj => ?_
    waiting := fun j e session due hj => ?_
    entered := fun p hp => ?_
    looked := fun p hp => List.mem_append_left _ (h.looked p hp)
    enteredOnce := ?_
    opened := ?_
    searched := ?_ }
  · obtain ⟨rfl, rfl⟩ | ⟨hn, hj⟩ := (getElem?_set_iff hi).1 hj
    · obtain hv | ⟨session, due, hv⟩ := hv <;> cases hv
    · exact (h.opening j e hj).enter h.apart hn
  · obtain ⟨rfl, rfl⟩ | ⟨hn, hj⟩ := (getElem?_set_iff hi).1 hj
    · obtain hv | ⟨session', due', hv⟩ := hv
      · cases hv
      · cases hv
        exact (h.opening j d hi).entered
    · exact (h.waiting j e session due hj).enter h.apart hn
  · obtain hp | hp := List.mem_append.1 hp
    · exact h.entered p hp
    · obtain rfl := List.mem_singleton.1 hp
      exact ⟨k, hk, h.held i k hk, hd⟩
  · simp only [Ledger.note, List.map_append, List.map_cons, List.map_nil, hk]
    exact nodup_concat h.enteredOnce hb.1
  · simp only [Ledger.note, List.filterMap_append, List.map_append, h.opened]
    rfl
  · rw [List.filterMap_append, h.searched]
    exact List.append_nil _

theorem look {i : Nat} {d : Datacenter} {session : Session} {due : Nat}
    {r : Except Error (List VmInfo)} {v : Worker} (h : Kept centers es l s)
    (hi : s.workers[i]? = some (.waiting d session due)) (hv : v.hand = none) (n : Network R) :
    Kept centers (es ++ [.searched d r]) (l.note (.look i d)) ({ s with net := n }.put i v) := by
  have ⟨k, hk, hd, hl, hb⟩ := h.waiting i d session due hi
  refine { h with
    opening := fun j e hj => ?_
    waiting := fun j e session due hj => ?_
    looked := fun p hp => ?_
    lookedOnce := ?_
    opened := ?_
    searched := ?_ }
  · obtain ⟨rfl, rfl⟩ | ⟨hn, hj⟩ := (getElem?_set_iff hi).1 hj
    · cases hv
    · exact (h.opening j e hj).look h.apart hn
  · obtain ⟨rfl, rfl⟩ | ⟨hn, hj⟩ := (getElem?_set_iff hi).1 hj
    · cases hv
    · exact (h.waiting j e session due hj).look h.apart hn
  · obtain hp | hp := List.mem_append.1 hp
    · exact h.looked p hp
    · obtain rfl := List.mem_singleton.1 hp
      obtain ⟨p, hp, he⟩ := List.mem_map.1 (hb.2 trivial)
      obtain ⟨k', hk', -, hd'⟩ := h.entered p hp
      obtain rfl : k = k' := Option.some.inj (he.symm.trans hk')
      have he' : p = (l.held i, d) :=
        Prod.ext (he.trans hk.symm) (Option.some.inj (hd'.symm.trans hd))
      exact he' ▸ hp
  · simp only [Ledger.note, List.map_append, List.map_cons, List.map_nil, hk]
    exact nodup_concat h.lookedOnce hl
  · rw [List.filterMap_append, h.opened]
    exact List.append_nil _
  · simp only [Ledger.note, List.filterMap_append, List.map_append, h.searched]
    rfl

end Kept

theorem Worker.after_eq (r : Except Error VirtualMachine) :
    Worker.after r = .idle ∨ ∃ r', Worker.after r = .reporting r' := by
  unfold Worker.after
  split
  · split
    · exact .inl rfl
    · exact .inr ⟨_, rfl⟩
  · exact .inr ⟨_, rfl⟩

theorem Worker.marks_ended (i : Nat) (w : Worker) : w.marks i .ended = [] := by cases w <;> rfl

theorem Worker.marks_opening_after (i : Nat) (d : Datacenter) (r : Except Error VirtualMachine) :
    (Worker.opening d).marks i (.after r) = [.enter i d] := by
  obtain h | ⟨r', h⟩ := Worker.after_eq r <;> rw [h] <;> rfl

theorem Worker.marks_waiting_after (i : Nat) (d : Datacenter) (session : Session) (due : Nat)
    (r : Except Error VirtualMachine) :
    (Worker.waiting d session due).marks i (.after r) = [.look i d] := by
  obtain h | ⟨r', h⟩ := Worker.after_eq r <;> rw [h] <;> rfl

section

variable {centers : List Center.Config} {es fs : List Event} {l : Ledger} {s t u : State R}
  {m : Move} {i : Nat} {w : Worker}

variable [Remote R]

theorem Kept.change (h : Kept centers es l s) (hc : Change s m fs t) :
    Kept centers (es ++ fs) ((s.marks t m).foldl Ledger.note l) t := by
  have hn : Kept centers (es ++ []) l s := (List.append_nil es).symm ▸ h
  cases hc with
  | exhaust hp =>
    exact hn.produce s.net rfl (fun _ hc => nomatch hc) fun _ hd => nomatch hd
  | stop =>
    exact hn.fail s.net .cancelled
  | @connect c cs n _ hp =>
    have hs : Kept centers (es ++ [.connected c (.ok ())]) l s := h.append rfl rfl
    exact hs.produce n rfl (fun c hc => h.ahead c (hp ▸ hc)) fun _ hd => nomatch hd
  | @refuse c cs e n =>
    have hs : Kept centers (es ++ [.connected c (.error e)]) l s := h.append rfl rfl
    exact hs.fail n e
  | @list c cs ds n _ hp hr =>
    have hs : Kept centers (es ++ [.listed c (.ok ds)]) l s := h.append rfl rfl
    obtain ⟨all, rfl⟩ := Network.exists_of_datacenters hr
    have ahead : ∀ c' ∈ c :: cs, c' ∈ centers := fun c' hc => h.ahead c' (hp ▸ hc)
    exact hs.produce n rfl (fun c' hc => ahead c' (List.mem_cons_of_mem _ hc))
      fun d hd => allowed_of_select (ahead c List.mem_cons_self) hd
  | @unlist c cs e n =>
    have hs : Kept centers (es ++ [.listed c (.error e)]) l s := h.append rfl rfl
    exact hs.fail n e
  | visit hp =>
    exact hn.produce s.net rfl (fun c hc => h.ahead c (hp ▸ hc)) fun _ hd => nomatch hd
  | unheard hp =>
    exact hn.produce s.net rfl (fun _ hc => nomatch hc) fun _ hd => nomatch hd
  | publish _ hp =>
    rw [State.marks_publish]
    exact hn.publish hp
  | @quit i w _ hw =>
    rw [State.marks_put hw, Worker.marks_ended]
    exact hn.put hw rfl
  | take _ hw hq =>
    rw [State.marks_put hw]
    exact hn.take hw hq
  | leave _ hw =>
    rw [State.marks_put hw]
    exact hn.put hw rfl
  | @«open» i d session due n₁ n₂ _ hw =>
    rw [State.marks_put hw]
    exact h.enter hw (.inr ⟨session, due, rfl⟩) n₂
  | @unopen i d e n _ hw =>
    rw [State.marks_put hw, Worker.marks_opening_after]
    exact h.enter hw (.inl (Worker.hand_after _)) n
  | @look i d session due ms n _ hw =>
    rw [State.marks_put hw, Worker.marks_waiting_after]
    exact h.look hw (Worker.hand_after _) n
  | @miss i d session due e n _ hw =>
    rw [State.marks_put hw, Worker.marks_waiting_after]
    exact h.look hw (Worker.hand_after _) n
  | @report i r hw =>
    rw [State.report, State.marks_put hw]
    have hr : Kept centers (es ++ [.reported r]) l s := h.append rfl rfl
    have hs : Kept centers (es ++ [.reported r]) l { s with results := s.results ++ [r] } :=
      { hr with }
    exact hs.put hw rfl
  | hearMatch | hearFailure | gather | hearFault | overhear => exact { hn with }
  | deafen | close | closeFault | abandon => exact { hn with }

theorem marks_of_cancelled (hc : Change s m fs t) (hx : s.cancelled = true) :
    s.marks t m = [] ∧ (∀ v ∈ fs, ∃ r, v = .reported r) ∧ t.cancelled = true := by
  have silent : ∀ v ∈ ([] : List Event), ∃ r, v = .reported r :=
    fun v hv => absurd hv List.not_mem_nil
  cases hc with
  | exhaust | stop | visit => exact ⟨State.marks_producer s.net rfl, silent, hx⟩
  | connect hn | refuse hn | list hn | unlist hn | unheard hn | publish hn =>
    cases hn.symm.trans hx
  | take hn | leave hn | «open» hn | unopen hn | look hn | miss hn => cases hn.symm.trans hx
  | quit _ hw =>
    refine ⟨?_, silent, hx⟩
    rw [State.marks_put hw, Worker.marks_ended]
  | @report i r hw =>
    refine ⟨?_, fun v hv => ⟨r, List.mem_singleton.1 hv⟩, hx⟩
    rw [State.report, State.marks_put hw, Worker.marks_ended]
  | hearMatch | hearFailure | gather | hearFault | abandon => exact ⟨rfl, silent, rfl⟩
  | overhear | deafen | close | closeFault => exact ⟨rfl, silent, hx⟩

theorem history_of_cancelled (hx : s.cancelled = true) (ms : List (Nat × Move)) :
    s.history ms = [] := by
  induction ms generalizing s with
  | nil => rfl
  | cons tm ms ih =>
    obtain ⟨time, m⟩ := tm
    unfold State.history
    split
    · rename_i t ht
      obtain ⟨hm, -, ht⟩ := marks_of_cancelled (change_of_step ht) hx
      rw [ih ht, List.append_nil]
      exact hm
    · rfl

theorem reported_of_cancelled (hx : s.cancelled = true) {ms : List (Nat × Move)}
    (h : s.follow ms = some (t, es)) : ∀ v ∈ es, ∃ r, v = .reported r := by
  refine (follow_induction (P := fun es u => u.cancelled = true ∧ ∀ v ∈ es, ∃ r, v = .reported r)
    ⟨hx, fun _ hv => absurd hv List.not_mem_nil⟩ (fun _ _ _ hu => hu) ?_ h).2
  intro ds fs m u v ⟨hu, hd⟩ hc
  obtain ⟨-, hf, hv⟩ := marks_of_cancelled hc hu
  exact ⟨hv, fun e he => (List.mem_append.1 he).elim (hd e) (hf e)⟩

/-- What every change keeps of what was learned, what was done and where the parties are. -/
theorem history_induction {P : List Event → List Mark → State R → Prop} (start : P [] [] s)
    (wait : ∀ es ks u time, P es ks u → P es ks (u.wait time))
    (change : ∀ es ks fs m u v, P es ks u → Change u m fs v → P (es ++ fs) (ks ++ u.marks v m) v)
    {ms : List (Nat × Move)} (h : s.follow ms = some (t, es)) : P es (s.history ms) t := by
  suffices ∀ ds ks u, P ds ks u → u.follow ms = some (t, es) → P (ds ++ es) (ks ++ u.history ms) t
    from this [] [] s start h
  clear start h
  induction ms generalizing es with
  | nil =>
    intro ds ks u hu hf
    obtain ⟨rfl, rfl⟩ := Prod.mk.inj (Option.some.inj hf)
    simpa [State.history] using hu
  | cons tm ms ih =>
    obtain ⟨time, m⟩ := tm
    intro ds ks u hu hf
    simp only [State.follow, Option.bind_eq_some_iff, Option.map_eq_some_iff] at hf
    obtain ⟨v, hv, ⟨w, fs⟩, hw, he⟩ := hf
    obtain ⟨rfl, rfl⟩ := Prod.mk.inj he
    have hh : u.history ((time, m) :: ms) = (u.wait time).marks v m ++ v.history ms := by
      simp only [State.history, hv]
    rw [hh, ← List.append_assoc, ← List.append_assoc]
    exact ih _ _ v (change _ _ _ _ _ _ (wait _ _ _ time hu) (change_of_step hv)) hw

end

end StorageDriver.Search
