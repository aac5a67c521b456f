import StorageDriver.Proofs.SearchCover
import StorageDriver.Proofs.SearchLedger
import StorageDriver.Proofs.Standing

namespace StorageDriver.Search

variable {R : Type}

theorem map_getElem?_range {α : Type} (as : List α) :
    (List.range as.length).map (as[·]?) = as.map some := by
  refine List.ext_getElem (by simp) fun k h _ => ?_
  simp only [List.length_map, List.length_range] at h
  simp [h]

theorem perm_of_positions {α : Type} {as : List α} {ps : List (Option Nat × α)}
    (hn : (ps.map (·.1)).Nodup) (hp : ∀ p ∈ ps, ∃ k, p.1 = some k ∧ as[k]? = some p.2)
    (ha : ∀ k < as.length, some k ∈ ps.map (·.1)) : (ps.map (·.2)).Perm as := by
  have hr : (ps.map (·.1)).Perm ((List.range as.length).map some) := by
    refine (List.perm_ext_iff_of_nodup hn ?_).2 fun o => ⟨fun ho => ?_, fun ho => ?_⟩
    · exact List.pairwise_map.2 (List.nodup_range.imp fun h he => h (Option.some.inj he))
    · obtain ⟨p, hm, rfl⟩ := List.mem_map.1 ho
      obtain ⟨k, hk, hd⟩ := hp p hm
      rw [hk]
      exact List.mem_map_of_mem (List.mem_range.2 (List.getElem?_eq_some_iff.1 hd).1)
    · obtain ⟨k, hk, rfl⟩ := List.mem_map.1 ho
      exact ha k (List.mem_range.1 hk)
  have hs : (ps.map (·.2)).map some = (ps.map (·.1)).map (·.bind (as[·]?)) := by
    rw [List.map_map, List.map_map]
    refine List.map_congr_left fun p hm => ?_
    obtain ⟨k, hk, hd⟩ := hp p hm
    simp [hk, hd]
  have hm : ((ps.map (·.2)).map some).Perm (as.map some) := by
    rw [hs, ← map_getElem?_range]
    simpa only [List.map_map, Function.comp_def, Option.bind_some] using
      hr.map (·.bind (as[·]?))
  simpa using hm.filterMap id

/-- The centers in front have been listed, and what they answered is `ds` and what the producer is
about to publish. -/
def Answered (centers : List Center.Config) (es : List Event) (ds : List Datacenter)
    (p : Producer) : Prop :=
  ∃ answers : List (Center.Config × List DatacenterInfo),
    answers.map (·.1) ++ p.ahead = centers ∧
    (∀ a ∈ answers, .listed a.1 (.ok (Network.select a.1 a.2)) ∈ es) ∧
    answers.flatMap (fun a => Network.select a.1 a.2) = ds ++ p.found

namespace Answered

variable {centers cs : List Center.Config} {es : List Event} {ds : List Datacenter} {p : Producer}

theorem append (h : Answered centers es ds p) (fs : List Event) :
    Answered centers (es ++ fs) ds p :=
  have ⟨answers, ha, hl, hd⟩ := h
  ⟨answers, ha, fun a hm => List.mem_append_left _ (hl a hm), hd⟩

theorem move {p' : Producer} (h : Answered centers es ds p) (ha : p'.ahead = p.ahead)
    (hf : p'.found = p.found) : Answered centers es ds p' := by
  obtain ⟨answers, h⟩ := h
  exact ⟨answers, by rwa [ha, hf]⟩

theorem list {c : Center.Config} {all : List DatacenterInfo}
    (h : Answered centers es ds (.listing c cs))
    (hl : .listed c (.ok (Network.select c all)) ∈ es) :
    Answered centers es ds (.publishing (Network.select c all) cs) := by
  obtain ⟨answers, ha, hm, hd⟩ := h
  refine ⟨answers ++ [(c, all)], ?_, fun a ha => ?_, ?_⟩
  · rw [← ha]
    simp [Producer.ahead]
  · obtain ha | ha := List.mem_append.1 ha
    · exact hm a ha
    · obtain rfl := List.mem_singleton.1 ha
      exact hl
  · rw [List.flatMap_append, hd]
    simp [Producer.found]

theorem publish {d : Datacenter} {more : List Datacenter}
    (h : Answered centers es ds (.publishing (d :: more) cs)) :
    Answered centers es (ds ++ [d]) (.publishing more cs) := by
  obtain ⟨answers, ha, hm, hd⟩ := h
  refine ⟨answers, ha, hm, ?_⟩
  rw [hd, List.append_assoc]
  rfl

end Answered

/-- The books of a search that goes well: all that was answered is published in turn, and who took
an item has looked into it or holds it. -/
structure Thorough (centers : List Center.Config) (es : List Event) (l : Ledger) (s : State R) :
    Prop where
  answered : Answered centers es l.published s.stream.producer
  accounted : ∀ k < l.taken, some k ∈ l.looked.map (·.1) ∨
    ∃ i w, s.workers[i]? = some w ∧ w.hand.isSome = true ∧ l.held i = some k

namespace Thorough

variable {centers : List Center.Config} {es fs : List Event} {l : Ledger} {s : State R}

theorem start (n : Network R) (q : Query) (pool : Nat) (spent : Bool) :
    Thorough (n.centers.map (·.2.config)) [] {} (start q pool spent n) where
  answered := ⟨[], rfl, nofun, rfl⟩
  accounted _ hk := nomatch hk

theorem wait (h : Thorough centers es l s) (time : Nat) : Thorough centers es l (s.wait time) :=
  { h with }

theorem append (h : Thorough centers es l s) (fs : List Event) : Thorough centers (es ++ fs) l s :=
  { h with answered := h.answered.append fs }

theorem produce (h : Thorough centers es l s) (n : Network R) {u : Stream}
    (ha : Answered centers es l.published u.producer) (hq : u.queue = s.stream.queue) :
    Thorough centers es ((s.marks { s with net := n, stream := u } .producer).foldl Ledger.note l)
      { s with net := n, stream := u } := by
  rw [State.marks_producer n hq]
  exact { h with answered := ha }

theorem put {i : Nat} {w v : Worker} (h : Thorough centers es l s) (hi : s.workers[i]? = some w)
    (hv : w.hand.isSome = true → v.hand.isSome = true) : Thorough centers es l (s.put i v) :=
  { h with
    accounted := fun k hk => by
      obtain hl | ⟨j, u, hj, hu, hh⟩ := h.accounted k hk
      · exact .inl hl
      · by_cases hn : j = i
        · obtain rfl : w = u := Option.some.inj (hi.symm.trans (hn ▸ hj))
          exact .inr ⟨i, v, (getElem?_set_iff hi).2 (.inl ⟨rfl, rfl⟩), hv hu, hn ▸ hh⟩
        · exact .inr ⟨j, u, (getElem?_set_iff hi).2 (.inr ⟨hn, hj⟩), hu, hh⟩ }

theorem take {i : Nat} {d : Datacenter} {ds : List Datacenter} (h : Thorough centers es l s)
    (hi : s.workers[i]? = some .idle) :
    Thorough centers es (l.note (.take i d))
      ({ s with stream := { s.stream with queue := ds } }.put i (.opening d)) := by
  refine { h with accounted := fun k hk => ?_ }
  obtain hk | rfl := Nat.lt_succ_iff_lt_or_eq.1 hk
  · obtain hl | ⟨j, u, hj, hu, hh⟩ := h.accounted k hk
    · exact .inl hl
    · have hn : j ≠ i := by
        rintro rfl
        obtain rfl : .idle = u := Option.some.inj (hi.symm.trans hj)
        cases hu
      exact .inr ⟨j, u, (getElem?_set_iff hi).2 (.inr ⟨hn, hj⟩), hu, (if_neg hn).trans hh⟩
  · exact .inr ⟨i, .opening d, (getElem?_set_iff hi).2 (.inl ⟨rfl, rfl⟩), rfl, if_pos rfl⟩

theorem enter {i : Nat} {d : Datacenter} (h : Thorough centers es l s) :
    Thorough centers es (l.note (.enter i d)) s := { h with }

theorem look {i : Nat} {d : Datacenter} {w v : Worker} (h : Thorough centers es l s)
    (hi : s.workers[i]? = some w) : Thorough centers es (l.note (.look i d)) (s.put i v) :=
  { h with
    accounted := fun k hk => by
      simp only [Ledger.note, List.map_append, List.mem_append, List.map_cons, List.map_nil,
        List.mem_singleton]
      obtain hl | ⟨j, u, hj, hu, hh⟩ := h.accounted k hk
      · exact .inl (.inl hl)
      · by_cases hn : j = i
        · exact .inl (.inr (hn ▸ hh.symm))
        · exact .inr ⟨j, u, (getElem?_set_iff hi).2 (.inr ⟨hn, hj⟩), hu, hh⟩ }

end Thorough

/-- What a search keeps, and what it keeps while all is quiet. -/
structure Booked (centers : List Center.Config) (pool : Nat) (es : List Event) (l : Ledger)
    (s : State R) : Prop where
  kept : Kept centers es l s
  traced : Traced centers es s
  orderly : Orderly pool es s
  plain : ∀ v ∈ es, ∀ e, v.fault? = some e → e.IsPlain
  quiet : Quiet s → Covering centers es s ∧ Thorough centers es l s

namespace Booked

variable {pool : Nat} {centers : List Center.Config} {es : List Event} {l : Ledger} {s : State R}

/-- A search that has ended without a word has looked into all that was answered. -/
theorem perm (h : Booked centers pool es l s) (hp : 0 < pool) (hd : s.phase = .done)
    (hq : Quiet s) : ∃ answers : List (Center.Config × List DatacenterInfo),
      answers.map (·.1) = centers ∧
      (∀ a ∈ answers, .listed a.1 (.ok (Network.select a.1 a.2)) ∈ es) ∧
      (es.filterMap Event.searched?).Perm
        (answers.flatMap fun a => Network.select a.1 a.2) := by
  obtain ⟨hv, ht⟩ := h.quiet hq
  have ended : ∀ w ∈ s.workers, w = .ended := (h.orderly.settled (by simp [hd])).2
  obtain ⟨w, hw⟩ : ∃ w, w ∈ s.workers := List.exists_mem_of_length_pos (h.orderly.team ▸ hp)
  obtain ⟨he, hempty⟩ := hv.drained (ended w hw ▸ hw)
  have taken : l.published.length ≤ l.taken :=
    List.drop_eq_nil_iff.1 (h.kept.queue.trans hempty)
  obtain ⟨answers, ha, hl, hf⟩ := ht.answered
  rw [he] at ha hf
  refine ⟨answers, (List.append_nil _).symm.trans ha, hl, ?_⟩
  rw [h.kept.searched, hf.trans (List.append_nil _)]
  refine perm_of_positions h.kept.lookedOnce (fun p hm => ?_) fun k hk => ?_
  · obtain ⟨k, hk, -, hd⟩ := h.kept.entered p (h.kept.looked p hm)
    exact ⟨k, hk, hd⟩
  · refine (ht.accounted k (Nat.lt_of_lt_of_le hk taken)).resolve_right ?_
    rintro ⟨i, w, hi, hs, -⟩
    rw [ended w (List.mem_of_getElem? hi)] at hs
    cases hs

theorem quiet_of_missed (h : Booked centers pool es l s) (hd : s.phase = .done)
    {name uuid : String} (ho : s.outcome = .error (.vmNotFound name uuid)) : Quiet s := by
  have unfound : s.found = none := by
    cases hm : s.found with
    | none => rfl
    | some m => simp [State.outcome, hm] at ho
  have unfailed : s.failed = none := by
    cases he : s.failed with
    | none => rfl
    | some e =>
      obtain rfl : e = .vmNotFound name uuid := by simpa [State.outcome, unfound, he] using ho
      obtain ⟨v, hv, hf⟩ := h.traced.failed _ he
      cases (h.plain v hv _ hf).1
  refine h.orderly.quiet hd unfound unfailed ?_
  cases ha : s.abandoned with
  | false => rfl
  | true => simp [State.outcome, unfound, unfailed, ha] at ho

end Booked

section

variable [Remote R] {pool : Nat} {centers : List Center.Config} {es fs : List Event} {l : Ledger}
  {s t : State R} {m : Move}

theorem fails_of_change {P : Error → Prop} (hr : Remote.Fails R P)
    (unknown : ∀ host, P (.notRegistered host)) (hc : Change s m fs t) :
    ∀ v ∈ fs, ∀ e, v.fault? = some e → P e := by
  have once : ∀ {v : Event}, (∀ e, v.fault? = some e → P e) →
      ∀ u ∈ [v], ∀ e, u.fault? = some e → P e :=
    fun hv u hu => List.mem_singleton.1 hu ▸ hv
  cases hc with
  | refuse _ _ hn =>
    exact once fun e he => Option.some.inj he ▸ hr.of_connect unknown (congrArg Prod.fst hn)
  | unlist _ _ hn =>
    exact once fun e he => Option.some.inj he ▸ hr.of_datacenters unknown (congrArg Prod.fst hn)
  | unopen _ _ hn =>
    exact once fun e he => Option.some.inj he ▸ hr.of_client unknown (congrArg Prod.fst hn)
  | miss _ _ hn =>
    exact once fun e he => Option.some.inj he ▸ hr.of_finish (congrArg Prod.fst hn)
  | connect | list | «open» | look | report => exact once fun _ he => nomatch he
  | _ => exact fun v hv => absurd hv List.not_mem_nil

/-- As long as all is quiet nothing that was taken is dropped. -/
theorem Thorough.change (hp : 0 < pool) (ho : Orderly pool es s) (hv : Covering centers es s)
    (h : Thorough centers es l s) (ht : Quiet t) (hf : ∀ v ∈ fs, v.fault? = none)
    (hc : Change s m fs t) :
    Thorough centers (es ++ fs) ((s.marks t m).foldl Ledger.note l) t := by
  have h' := h.append fs
  have running : s.cancelled = true → ∀ w ∈ s.workers, w = .ended :=
    fun hx => (ho.settled (hv.open_ hx)).2
  have move : ∀ {p : Producer}, p.ahead = s.stream.producer.ahead →
      p.found = s.stream.producer.found → Answered centers (es ++ fs) l.published p :=
    h'.answered.move
  cases hc with
  | exhaust hs => exact h'.produce s.net (move (by rw [hs]; rfl) (by rw [hs]; rfl)) rfl
  | stop hx hs =>
    obtain ⟨w, hw⟩ : ∃ w, w ∈ s.workers := List.exists_mem_of_length_pos (ho.team ▸ hp)
    have he := (hv.drained (running hx w hw ▸ hw)).1
    simp [he, Producer.isInterruptible] at hs
  | @connect c cs n _ hs =>
    exact h'.produce n (move (by rw [hs]; rfl) (by rw [hs]; rfl)) rfl
  | refuse | unlist | unopen | miss => cases hf _ (List.mem_singleton_self _)
  | @list c cs ds n _ hs hr =>
    obtain ⟨all, rfl⟩ := Network.exists_of_datacenters hr
    have ha := (hs ▸ h'.answered).list (List.mem_append_right _ (List.mem_singleton_self _))
    exact h'.produce n ha rfl
  | visit hs => exact h'.produce s.net (move (by rw [hs]; rfl) (by rw [hs]; rfl)) rfl
  | unheard _ _ hh => cases hh.symm.trans ho.heard
  | @publish d ds cs _ hs =>
    rw [State.marks_publish]
    exact { h' with answered := (hs ▸ h'.answered).publish }
  | quit hx hw hi =>
    obtain rfl := running hx _ (List.mem_of_getElem? hw)
    cases hi
  | take _ hw =>
    rw [State.marks_put hw]
    exact h'.take hw
  | leave _ hw =>
    rw [State.marks_put hw]
    exact h'.put hw id
  | @«open» i d session due n₁ n₂ _ hw =>
    rw [State.marks_put hw]
    have hn : Thorough centers (es ++ [.opened d (.ok session)]) (l.note (.enter i d))
        { s with net := n₂ } := { h'.enter with }
    exact hn.put hw id
  | @look i d session due ms n _ hw =>
    rw [State.marks_put hw, Worker.marks_waiting_after]
    have hn : Thorough centers (es ++ [.searched d (.ok ms)]) l { s with net := n } := { h' with }
    exact hn.look hw
  | @report i r hw =>
    rw [State.report, State.marks_put hw]
    have hn : Thorough centers (es ++ [.reported r]) l { s with results := s.results ++ [r] } :=
      { h' with }
    exact hn.put hw fun hs => by cases hs
  | hearMatch | hearFailure | gather | hearFault | overhear => exact { h' with }
  | deafen | close | closeFault | abandon => exact { h' with }

theorem booked_follow (hr : Remote.IsPlain R) {n : Network R} {q : Query} (hp : 0 < pool)
    {spent : Bool} {ms : List (Nat × Move)}
    (h : (start q pool spent n).follow ms = some (s, es)) :
    Booked (n.centers.map (·.2.config)) pool es
      (Ledger.ofMarks ((start q pool spent n).history ms)) s := by
  refine history_induction (P := fun es ks u => Booked _ pool es (Ledger.ofMarks ks) u) ?_ ?_ ?_ h
  · exact ⟨.start n q pool spent, .start n q pool spent, .start n q pool spent,
      fun v hv => absurd hv List.not_mem_nil,
      fun hq => ⟨.start n q hq.abandoned, .start n q pool spent⟩⟩
  · intro es ks u time hu
    refine { hu with
      kept := hu.kept.wait time
      traced := hu.traced.wait time
      orderly := hu.orderly.wait time
      quiet := fun hq => ?_ }
    obtain ⟨hv, ht⟩ := hu.quiet { hq with }
    exact ⟨{ hv with }, ht.wait time⟩
  · intro es ks fs m u v hu hc
    have hf := fails_of_change hr.fails (fun _ => ⟨rfl, nofun⟩) hc
    rw [Ledger.ofMarks_append]
    refine ⟨hu.kept.change hc, hu.traced.change hc, hu.orderly.change hc,
      fun v hv => (List.mem_append.1 hv).elim (hu.plain v) (hf v), fun hq => ?_⟩
    obtain ⟨hv, ht⟩ := hu.quiet (hq.before hu.orderly hc)
    exact ⟨hv.change hp hu.orderly hq hf hc,
      ht.change hp hu.orderly hv hq (hq.faultless hf hc) hc⟩

/-- Whatever the order of the moves: who looks into a datacenter has it from the stream, at a
position that nobody else looks into, and it may be searched. Once all is cancelled nobody takes,
publishes or asks for anything. If there was no match, the datacenters that were looked into are
those that the centers answered and that may be searched, each as often as it was answered. -/
theorem looked_once_of_follow (hr : Remote.IsPlain R) {n : Network R} {q : Query} (hp : 0 < pool)
    {spent : Bool} {ms : List (Nat × Move)}
    (h : (start q pool spent n).follow ms = some (s, es)) :
    let centers := n.centers.map (·.2.config)
    let l := Ledger.ofMarks ((start q pool spent n).history ms)
    (es.filterMap Event.opened? = l.entered.map (·.2) ∧
      es.filterMap Event.searched? = l.looked.map (·.2) ∧
      (∀ p ∈ l.looked, p ∈ l.entered) ∧
      ∀ p ∈ l.entered, Allowed centers p.2 ∧ ∃ k, p.1 = some k ∧ l.published[k]? = some p.2) ∧
    ((l.entered.map (·.1)).Nodup ∧ (l.looked.map (·.1)).Nodup) ∧
    (s.cancelled = true → (∀ ns, s.history ns = []) ∧
      ∀ ns t fs, s.follow ns = some (t, fs) → ∀ v ∈ fs, ∃ r, v = .reported r) ∧
    (∀ name uuid, s.phase = .done → s.outcome = .error (.vmNotFound name uuid) →
      (∀ v ∈ es, v.fault? = none) ∧
      ∃ answers : List (Center.Config × List DatacenterInfo), answers.map (·.1) = centers ∧
        (∀ a ∈ answers, .listed a.1 (.ok (Network.select a.1 a.2)) ∈ es) ∧
        (es.filterMap Event.searched?).Perm
          (answers.flatMap fun a => Network.select a.1 a.2)) := by
  have hb := booked_follow hr hp h
  have hk := hb.kept
  refine ⟨⟨hk.opened, hk.searched, hk.looked, fun p hm => ?_⟩, ⟨hk.enteredOnce, hk.lookedOnce⟩,
    fun hx => ⟨history_of_cancelled hx, fun ns t fs => reported_of_cancelled hx⟩,
    fun name uuid hd ho => ?_⟩
  · obtain ⟨k, hk', -, hd⟩ := hk.entered p hm
    exact ⟨hk.published _ (List.mem_of_getElem? hd), k, hk', hd⟩
  · have hq := hb.quiet_of_missed hd ho
    exact ⟨(hb.quiet hq).1.clean, hb.perm hp hd hq⟩

/-- Two datacenters with one id, which two workers look into in turn and in vain. -/
theorem looked_once_of_follow_twins :
    let plane : Plane :=
      { host := "vc", datacenters := [{ id := "dc", name := "a" }, { id := "dc", name := "b" }] }
    let n := Network.register { planes := Fleet.ofPlanes [plane] } plane.config
    ∃ ms s es, (start ⟨"m", ""⟩ 2 false n).follow ms = some (s, es) ∧ s.phase = .done ∧
      s.outcome = .error (.vmNotFound "m" "") ∧
      ∃ answers : List (Center.Config × List DatacenterInfo),
        answers.map (·.1) = [plane.config] ∧
        (es.filterMap Event.searched?).Perm
          (answers.flatMap fun a => Network.select a.1 a.2) := by
  intro plane n
  let moves : List Move := [.producer, .producer, .producer, .worker 1, .producer, .worker 0,
    .worker 0, .worker 1, .worker 1, .producer, .producer, .worker 0, .worker 0, .worker 1,
    .result, .close]
  have hm : ((start ⟨"m", ""⟩ 2 false n).follow (moves.map fun m => (0, m))).any
      (fun r => r.1.phase = .done ∧ r.1.found = none ∧ r.1.failed = none ∧
        r.1.abandoned = false) = true := by
    decide +kernel
  obtain ⟨⟨s, es⟩, h, he⟩ := (Option.any_eq_true _ _).1 hm
  obtain ⟨hd, hf, he, ha⟩ : s.phase = .done ∧ s.found = none ∧ s.failed = none ∧
      s.abandoned = false := of_decide_eq_true he
  have ho : s.outcome = .error (.vmNotFound "m" "") := by
    simp [State.outcome, hf, he, ha, query_follow h, start, Query.missed]
  obtain ⟨-, answers, ha, -, hs⟩ :=
    (looked_once_of_follow Fleet.isPlain (by decide) h).2.2.2 _ _ hd ho
  exact ⟨_, s, es, h, hd, ho, answers, ha, hs⟩

end

end StorageDriver.Search
