import StorageDriver.Proofs.Connections
import StorageDriver.Proofs.SearchOrder

namespace StorageDriver.Search

variable {R : Type}

/-- Somebody looked into `d` and found no match. -/
def Missed (q : Query) (es : List Event) (d : Datacenter) : Prop :=
  ∃ ms, .searched d (.ok ms) ∈ es ∧ ms.find? q.hits = none

theorem Missed.append {q : Query} {es : List Event} {d : Datacenter} (h : Missed q es d)
    (fs : List Event) : Missed q (es ++ fs) d := by
  obtain ⟨ms, hs, hm⟩ := h
  exact ⟨ms, List.mem_append_left _ hs, hm⟩

theorem mem_set_of_mem {α : Type} {l : List α} {i : Nat} {a b c : α} (ha : l[i]? = some a)
    (hc : c ∈ l) : c = a ∨ c ∈ l.set i b := by
  obtain ⟨j, hj⟩ := List.mem_iff_getElem?.1 hc
  by_cases h : j = i
  · subst h
    exact .inl (Option.some.inj (hj.symm.trans ha))
  · refine .inr (List.mem_iff_getElem?.2 ⟨j, ?_⟩)
    rwa [List.getElem?_set_ne (Ne.symm h)]

namespace State

variable {s : State R} {i : Nat} {w : Worker}

theorem Pending.put {d : Datacenter} (h : s.Pending d) (hw : s.workers[i]? = some w)
    (v : Worker) : (s.put i v).Pending d ∨ w.hand = some d := by
  obtain h | h | ⟨u, hu, h⟩ := h
  · exact .inl (.inl h)
  · exact .inl (.inr (.inl h))
  · obtain rfl | hu := mem_set_of_mem (b := v) hw hu
    · exact .inr h
    · exact .inl (.inr (.inr ⟨u, hu, h⟩))

theorem pending_put {d : Datacenter} {v : Worker} (hw : s.workers[i]? = some w)
    (hd : v.hand = some d) : (s.put i v).Pending d :=
  .inr (.inr ⟨v, List.mem_set (List.getElem?_eq_some_iff.1 hw).1 v, hd⟩)

theorem Tells.put {r : Except Error VirtualMachine} (h : s.Tells r) (hw : s.workers[i]? = some w)
    (hn : w.word = none) (v : Worker) : (s.put i v).Tells r := by
  obtain h | ⟨u, hu, h⟩ := h
  · exact .inl h
  · obtain rfl | hu := mem_set_of_mem (b := v) hw hu
    · rw [hn] at h
      cases h
    · exact .inr ⟨u, hu, h⟩

theorem tells_put {r : Except Error VirtualMachine} {v : Worker} (hw : s.workers[i]? = some w)
    (hr : v.word = some r) : (s.put i v).Tells r :=
  .inr ⟨v, List.mem_set (List.getElem?_eq_some_iff.1 hw).1 v, hr⟩

end State

/-- Nothing has gone right or wrong so far, and nobody has given up. -/
structure Quiet (s : State R) : Prop where
  found : s.found = none
  failed : s.failed = none
  abandoned : s.abandoned = false
  tells : ∀ r, ¬ s.Tells r
  fault : ∀ e, s.stream.fault = some e → e = .cancelled

/-- No call has failed, and every center is still to be listed, or each of its datacenters is
pending or had no match. -/
structure Covering (centers : List Center.Config) (es : List Event) (s : State R) : Prop where
  clean : ∀ v ∈ es, v.fault? = none
  open_ : s.cancelled = true → s.phase ≠ .gathering
  drained : .ended ∈ s.workers → s.stream.producer = .ended ∧ s.stream.queue = []
  cover : ∀ c ∈ centers, c ∈ s.stream.producer.ahead ∨
    ∃ ds, .listed c (.ok ds) ∈ es ∧ ∀ d ∈ ds, s.Pending d ∨ Missed s.query es d

section

variable {pool : Nat} {centers : List Center.Config} {es fs : List Event} {s t : State R} {m : Move}

theorem Orderly.quiet (h : Orderly pool es s) (hd : s.phase = .done) (hf : s.found = none)
    (he : s.failed = none) (ha : s.abandoned = false) : Quiet s where
  found := hf
  failed := he
  abandoned := ha
  tells r hr := by
    obtain ⟨hs, hw⟩ := h.settled (by simp [hd])
    obtain hr | ⟨w, hm, hr⟩ := hr
    · rw [hs] at hr
      cases hr
    · rw [hw w hm] at hr
      cases hr
  fault e hs := Decidable.byContradiction fun hn => by
    have hb := h.done hd e hs hn
    rw [he] at hb
    cases hb

theorem Quiet.before [Remote R] (ho : Orderly pool es s) (hc : Change s m fs t) (ht : Quiet t) :
    Quiet s := by
  cases hc with
  | exhaust | connect | list | visit | unheard | publish | gather | deafen | close =>
    exact { ht with }
  | stop _ hp =>
    have hp : s.stream.producer ≠ .ended := fun he => by
      simp [he, Producer.isInterruptible] at hp
    exact { ht with fault := fun e he => by cases (ho.running hp).1.symm.trans he }
  | refuse _ hp | unlist _ hp =>
    exact { ht with fault := fun e he => by cases (ho.running (by simp [hp])).1.symm.trans he }
  | @quit i w _ hw hi =>
    have hn : w.word = none := by cases w <;> first | rfl | cases hi
    exact { ht with tells := fun r hr => ht.tells r (hr.put hw hn _) }
  | take _ hw | leave _ hw | «open» _ hw | unopen _ hw | look _ hw | miss _ hw =>
    exact { ht with tells := fun r hr => ht.tells r (hr.put hw rfl _) }
  | report hw =>
    exact absurd (.inl (List.mem_append_right _ (List.mem_singleton_self _))) (ht.tells _)
  | hearMatch =>
    have hf := ht.found
    cases h : s.found <;> simp [h] at hf
  | hearFailure | hearFault | closeFault =>
    have hf := ht.failed
    cases h : s.failed <;> simp [State.blame, h] at hf
  | overhear _ _ hf =>
    exact { ht with fault := fun e he => Option.some.inj (he.symm.trans hf) }
  | abandon => cases ht.abandoned

theorem Quiet.faultless [Remote R] (ht : Quiet t)
    (hf : ∀ v ∈ fs, ∀ e, v.fault? = some e → e.IsPlain) (hc : Change s m fs t) :
    ∀ v ∈ fs, v.fault? = none := by
  have unheard : ∀ e : Error, t.stream.fault = some e → ¬ e.IsPlain :=
    fun e he hp => hp.2 (ht.fault e he)
  have unreported : ∀ (i : Nat) (w : Worker) (e : Error), t.workers[i]? = some w →
      w = .after (.error e) → ¬ e.IsPlain := by
    intro i w e hw he hp
    refine ht.tells (.error e) (.inr ⟨w, List.mem_of_getElem? hw, ?_⟩)
    simp [he, Worker.after, hp.1, Worker.word]
  cases hc with
  | refuse | unlist => exact absurd (hf _ (List.mem_singleton_self _) _ rfl) (unheard _ rfl)
  | @unopen i d e n _ hw | @miss i d _ _ e n _ hw =>
    have hi := (List.getElem?_eq_some_iff.1 hw).1
    exact absurd (hf _ (List.mem_singleton_self _) _ rfl)
      (unreported i _ e (List.getElem?_set_self hi) rfl)
  | connect | list | «open» | look | report => exact fun v hv => List.mem_singleton.1 hv ▸ rfl
  | _ => exact fun v hv => absurd hv List.not_mem_nil

namespace Covering

theorem start (n : Network R) (q : Query) {spent : Bool} (hs : spent = false) :
    Covering (n.centers.map (·.2.config)) [] (start q pool spent n) where
  clean := nofun
  open_ hc := nomatch hs.symm.trans hc
  drained hw := nomatch List.eq_of_mem_replicate hw
  cover _ hc := .inl hc

theorem append (h : Covering centers es s) (hf : ∀ v ∈ fs, v.fault? = none) :
    Covering centers (es ++ fs) s :=
  { h with
    clean := fun v hv => (List.mem_append.1 hv).elim (h.clean v) (hf v)
    cover := fun c hc => by
      obtain ha | ⟨ds, hl, hd⟩ := h.cover c hc
      · exact .inl ha
      · refine .inr ⟨ds, List.mem_append_left _ hl, fun d hm => ?_⟩
        exact (hd d hm).imp_right fun hd => hd.append fs }

theorem covered (h : Covering centers es s)
    (ha : ∀ c ∈ s.stream.producer.ahead, c ∈ t.stream.producer.ahead)
    (hd : ∀ d, s.Pending d → t.Pending d ∨ Missed s.query es d) :
    ∀ c ∈ centers, c ∈ t.stream.producer.ahead ∨
      ∃ ds, .listed c (.ok ds) ∈ es ∧ ∀ d ∈ ds, t.Pending d ∨ Missed s.query es d := by
  intro c hc
  obtain hc | ⟨ds, hl, hds⟩ := h.cover c hc
  · exact .inl (ha c hc)
  · exact .inr ⟨ds, hl, fun d hm => (hds d hm).elim (hd d) .inr⟩

theorem put {i : Nat} {w v : Worker} (h : Covering centers es s) (hw : s.workers[i]? = some w)
    (hv : v ≠ .ended) (hd : ∀ d, w.hand = some d → v.hand = some d ∨ Missed s.query es d) :
    Covering centers es (s.put i v) where
  clean := h.clean
  open_ := h.open_
  drained he := h.drained ((List.mem_or_eq_of_mem_set he).resolve_right (Ne.symm hv))
  cover := h.covered (fun _ hc => hc) fun d hp => by
    obtain hp | hp := hp.put hw v
    · exact .inl hp
    · exact (hd d hp).imp_left (State.pending_put hw)

theorem after {i : Nat} {w : Worker} {d : Datacenter} {r : Except Error VirtualMachine}
    (h : Covering centers es s) (hw : s.workers[i]? = some w) (hd : w.hand = some d)
    (hs : ∀ r', ¬ (s.put i (.after r)).Tells r')
    (hm : ∀ e, r = .error e → e.isMiss = true → Missed s.query es d) :
    Covering centers es (s.put i (.after r)) := by
  refine h.put hw ?_ fun d' hd' => ?_
  · unfold Worker.after
    split
    · split <;> simp
    · simp
  · obtain rfl : d = d' := Option.some.inj (hd.symm.trans hd')
    obtain ⟨hr, -⟩ | ⟨-, e, he, hi⟩ := Worker.word_after r
    · exact absurd (State.tells_put hw hr) (hs r)
    · exact .inr (hm e he hi)

theorem produce {p : Producer} {q : List Datacenter} (h : Covering centers es s) (n : Network R)
    (hp : s.stream.producer ≠ .ended) (ha : ∀ c ∈ s.stream.producer.ahead, c ∈ p.ahead)
    (hd : ∀ d, s.Pending d →
      { s with net := n, stream := { s.stream with producer := p, queue := q } }.Pending d) :
    Covering centers es
      { s with net := n, stream := { s.stream with producer := p, queue := q } } where
  clean := h.clean
  open_ := h.open_
  drained he := absurd (h.drained he).1 hp
  cover := h.covered ha fun d hp => .inl (hd d hp)

theorem change [Remote R] (hp : 0 < pool) (ho : Orderly pool es s) (h : Covering centers es s)
    (ht : Quiet t) (hf : ∀ v ∈ fs, ∀ e, v.fault? = some e → e.IsPlain) (hc : Change s m fs t) :
    Covering centers (es ++ fs) t := by
  have hn := ht.faultless hf hc
  have h' := h.append hn
  have running : s.cancelled = true → ∀ w ∈ s.workers, w = .ended :=
    fun hx => (ho.settled (h.open_ hx)).2
  cases hc with
  | exhaust hs =>
    exact h'.produce (p := .ended) (q := s.stream.queue) s.net (by simp [hs])
      (by simp [hs, Producer.ahead])
      fun d hd => hd.imp_left fun hd => by simp [hs, Producer.found] at hd
  | stop hx hs =>
    obtain ⟨w, hw⟩ : ∃ w, w ∈ s.workers := List.exists_mem_of_length_pos (ho.team ▸ hp)
    have he := (h.drained (running hx w hw ▸ hw)).1
    simp [he, Producer.isInterruptible] at hs
  | connect _ hs =>
    exact h'.produce (p := .listing _ _) (q := s.stream.queue) _ (by simp [hs])
      (by simp [hs, Producer.ahead])
      fun d hd => hd.imp_left fun hd => by simp [hs, Producer.found] at hd
  | refuse | unlist | unopen | miss => cases hn _ (List.mem_singleton_self _)
  | @list c cs ds n _ hs =>
    refine ⟨h'.clean, h.open_, fun he => absurd (h.drained he).1 (by simp [hs]), fun c' hc => ?_⟩
    obtain ha | ⟨ds', hl, hd⟩ := h.cover c' hc
    · rw [hs] at ha
      obtain rfl | ha := List.mem_cons.1 ha
      · exact .inr ⟨ds, List.mem_append_right _ (List.mem_singleton_self _),
          fun d hd => .inl (.inl hd)⟩
      · exact .inl ha
    · refine .inr ⟨ds', List.mem_append_left _ hl, fun d hm => ?_⟩
      refine (hd d hm).imp (fun hd => hd.imp_left fun hd => ?_) fun hd => hd.append _
      simp [hs, Producer.found] at hd
  | visit hs =>
    exact h'.produce (p := .visiting _) (q := s.stream.queue) s.net (by simp [hs])
      (by simp [hs, Producer.ahead])
      fun d hd => hd.imp_left fun hd => by simp [hs, Producer.found] at hd
  | unheard _ _ hh => cases hh.symm.trans ho.heard
  | publish _ hs =>
    refine h'.produce (p := .publishing _ _) s.net (by simp [hs]) (by simp [hs, Producer.ahead])
      fun d hd => ?_
    obtain hd | hd | hd := hd
    · rw [hs] at hd
      obtain rfl | hd := List.mem_cons.1 hd
      · exact .inr (.inl (List.mem_append_right _ (List.mem_singleton_self _)))
      · exact .inl hd
    · exact .inr (.inl (List.mem_append_left _ hd))
    · exact .inr (.inr hd)
  | quit hx hw hi =>
    obtain rfl := running hx _ (List.mem_of_getElem? hw)
    cases hi
  | @take i d ds hx hw hq =>
    refine ⟨h'.clean, h.open_, fun he => ?_,
      h'.covered (fun _ hc => hc) fun d' hd => .inl ?_⟩
    · have he := h.drained ((List.mem_or_eq_of_mem_set he).resolve_right (by simp))
      cases hq.symm.trans he.2
    · have hs : { s with stream := { s.stream with queue := ds } }.Pending d' ∨ d' = d := by
        obtain hd | hd | hd := hd
        · exact .inl (.inl hd)
        · obtain hd | hd := List.mem_cons.1 (hq ▸ hd)
          · exact .inr hd
          · exact .inl (.inr (.inl hd))
        · exact .inl (.inr (.inr hd))
      obtain hs | rfl := hs
      · exact (hs.put hw (.opening d)).resolve_right fun hi => by cases hi
      · exact State.pending_put hw rfl
  | leave _ hw hq he =>
    refine ⟨h'.clean, h.open_, fun _ => ⟨Producer.eq_ended he, hq⟩,
      h'.covered (fun _ hc => hc) fun d' hd => .inl ?_⟩
    exact (hd.put hw _).resolve_right fun hi => by cases hi
  | @«open» i d session due n₁ n₂ _ hw =>
    have hs : Covering centers (es ++ [.opened d (.ok session)]) { s with net := n₂ } := { h' with }
    exact hs.put hw (by simp) fun d' hd => .inl hd
  | @look i d session due ms n _ hw =>
    have hs : Covering centers (es ++ [.searched d (.ok ms)]) { s with net := n } := { h' with }
    refine hs.after hw rfl ht.tells fun e he _ =>
      ⟨ms, List.mem_append_right _ (List.mem_singleton_self _), ?_⟩
    unfold Query.answer at he
    split at he
    · cases he
    · assumption
  | report =>
    exact absurd (.inl (List.mem_append_right _ (List.mem_singleton_self _))) (ht.tells _)
  | hearMatch =>
    have hf := ht.found
    cases h : s.found <;> simp [h] at hf
  | hearFailure | hearFault | closeFault =>
    have hf := ht.failed
    cases h : s.failed <;> simp [State.blame, h] at hf
  | gather => exact { h' with open_ := fun _ hp => absurd hp (by simp) }
  | overhear => exact { h' with }
  | deafen => exact { h' with }
  | close => exact { h' with open_ := fun _ hp => absurd hp (by simp) }
  | abandon => cases ht.abandoned

end Covering

end

end StorageDriver.Search
