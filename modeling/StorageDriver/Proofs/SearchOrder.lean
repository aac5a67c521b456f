import StorageDriver.Proofs.SearchReports

namespace StorageDriver

theorem Producer.eq_ended {p : Producer} (h : p.hasEnded = true) : p = .ended := by
  cases p <;> first | rfl | cases h

namespace Search

variable {R : Type}

theorem Worker.eq_ended {w : Worker} (h : w.hasEnded = true) : w = .ended := by
  cases w <;> first | rfl | cases h

/-- Who is where: what each party's end says about the others. -/
structure Orderly (pool : Nat) (es : List Event) (s : State R) : Prop where
  team : s.workers.length = pool
  heard : s.stream.heard = true
  fault : ∀ e, s.stream.fault = some e → s.stream.producer = .ended
  deaf : s.listening = false → s.stream.producer = .ended ∧ s.stream.fault = none
  settled : s.phase ≠ .gathering → s.results = [] ∧ ∀ w ∈ s.workers, w = .ended
  done : s.phase = .done → ∀ e, s.stream.fault = some e → e ≠ .cancelled → s.failed.isSome = true
  finished : s.phase = .done → s.stream.producer = .ended
  delivered : ∀ m, .reported (.ok m) ∈ es → s.found.isSome = true ∨ ∃ m', .ok m' ∈ s.results

namespace Orderly

variable {pool : Nat} {es : List Event} {s t : State R}

theorem start (n : Network R) (q : Query) (pool : Nat) (spent : Bool) :
    Orderly pool [] (start q pool spent n) :=
  ⟨List.length_replicate, rfl, nofun, nofun, fun hp => absurd rfl hp, nofun, nofun, nofun⟩

theorem wait (h : Orderly pool es s) (time : Nat) : Orderly pool es (s.wait time) := { h with }

theorem put {i : Nat} {w : Worker} (h : Orderly pool es s) (hi : s.workers[i]? = some w)
    (hw : w ≠ .ended) (v : Worker) : Orderly pool es (s.put i v) :=
  { h with
    team := by rw [← h.team]; exact List.length_set
    settled := fun hp => absurd ((h.settled hp).2 w (List.mem_of_getElem? hi)) hw }

theorem gathering {i : Nat} {w : Worker} (h : Orderly pool es s) (hi : s.workers[i]? = some w)
    (hw : w ≠ .ended) : s.phase = .gathering :=
  Decidable.byContradiction fun hp => hw ((h.settled hp).2 w (List.mem_of_getElem? hi))

theorem running (h : Orderly pool es s) (hp : s.stream.producer ≠ .ended) :
    s.stream.fault = none ∧ s.listening = true ∧ s.phase ≠ .done := by
  refine ⟨?_, ?_, fun hd => hp (h.finished hd)⟩
  · cases hf : s.stream.fault with
    | none => rfl
    | some e => exact absurd (h.fault e hf) hp
  · cases hl : s.listening with
    | true => rfl
    | false => exact absurd (h.deaf hl).1 hp

theorem append (h : Orderly pool es s) {v : Event} (hv : ∀ m, v ≠ .reported (.ok m)) :
    Orderly pool (es ++ [v]) s :=
  { h with
    delivered := fun m hm => h.delivered m <| (List.mem_append.1 hm).resolve_right fun hm =>
      hv m (List.mem_singleton.1 hm).symm }

theorem produce (h : Orderly pool es s) (hp : s.stream.producer ≠ .ended) (n : Network R)
    (p : Producer) (q : List Datacenter) :
    Orderly pool es { s with net := n, stream := { s.stream with producer := p, queue := q } } :=
  have ⟨hf, hl, hd⟩ := h.running hp
  { h with
    fault := fun _ he => by cases hf.symm.trans he
    deaf := fun he => by cases hl.symm.trans he
    done := fun he => absurd he hd
    finished := fun he => absurd he hd }

theorem fail (h : Orderly pool es s) (hp : s.stream.producer ≠ .ended) (n : Network R) (e : Error) :
    Orderly pool es { s with net := n, stream := s.stream.fail e } :=
  have ⟨_, hl, hd⟩ := h.running hp
  { h with
    fault := fun _ _ => rfl
    deaf := fun he => by cases hl.symm.trans he
    done := fun he => absurd he hd
    finished := fun _ => rfl }

variable [Remote R]

theorem change {m : Move} {fs : List Event} (h : Orderly pool es s) (hc : Change s m fs t) :
    Orderly pool (es ++ fs) t := by
  have hn : Orderly pool (es ++ []) s := (List.append_nil es).symm ▸ h
  cases hc with
  | exhaust hp => exact hn.produce (by simp [hp]) s.net .ended s.stream.queue
  | stop _ hp =>
    exact hn.fail (fun he => by simp [he, Producer.isInterruptible] at hp) s.net .cancelled
  | @connect c cs n _ hp =>
    have hs : Orderly pool (es ++ [.connected c (.ok ())]) s := h.append (by simp)
    exact hs.produce (by simp [hp]) n _ s.stream.queue
  | @refuse c cs e n _ hp =>
    have hs : Orderly pool (es ++ [.connected c (.error e)]) s := h.append (by simp)
    exact hs.fail (by simp [hp]) n e
  | @list c cs ds n _ hp =>
    have hs : Orderly pool (es ++ [.listed c (.ok ds)]) s := h.append (by simp)
    exact hs.produce (by simp [hp]) n _ s.stream.queue
  | @unlist c cs e n _ hp =>
    have hs : Orderly pool (es ++ [.listed c (.error e)]) s := h.append (by simp)
    exact hs.fail (by simp [hp]) n e
  | visit hp => exact hn.produce (by simp [hp]) s.net _ s.stream.queue
  | unheard _ hp => exact hn.produce (by simp [hp]) s.net .ended s.stream.queue
  | publish _ hp => exact hn.produce (by simp [hp]) s.net _ _
  | quit _ hw hi => exact hn.put hw (fun he => by simp [he, Worker.isInterruptible] at hi) _
  | @take i d ds _ hw _ =>
    have hs : Orderly pool (es ++ []) { s with stream := { s.stream with queue := ds } } :=
      { hn with }
    exact hs.put hw (by simp) _
  | leave _ hw => exact hn.put hw (by simp) _
  | @«open» i d session due n₁ n₂ _ hw =>
    have hs : Orderly pool (es ++ [.opened d (.ok session)]) { s with net := n₂ } :=
      { h.append (v := .opened d (.ok session)) (by simp) with }
    exact hs.put hw (by simp) _
  | @unopen i d e n _ hw =>
    have hs : Orderly pool (es ++ [.opened d (.error e)]) { s with net := n } :=
      { h.append (v := .opened d (.error e)) (by simp) with }
    exact hs.put hw (by simp) _
  | @look i d session due ms n _ hw =>
    have hs : Orderly pool (es ++ [.searched d (.ok ms)]) { s with net := n } :=
      { h.append (v := .searched d (.ok ms)) (by simp) with }
    exact hs.put hw (by simp) _
  | @miss i d session due e n _ hw =>
    have hs : Orderly pool (es ++ [.searched d (.error e)]) { s with net := n } :=
      { h.append (v := .searched d (.error e)) (by simp) with }
    exact hs.put hw (by simp) _
  | @report i r hw =>
    have hs : Orderly pool (es ++ [.reported r]) { s with results := s.results ++ [r] } :=
      { h with
        settled := fun hp => absurd (h.gathering hw (by simp)) hp
        delivered := fun m hm => by
          obtain hm | hm := List.mem_append.1 hm
          · obtain hf | ⟨m', hm'⟩ := h.delivered m hm
            · exact .inl hf
            · exact .inr ⟨m', List.mem_append_left _ hm'⟩
          · obtain rfl : Except.ok m = r := Event.reported.inj (List.mem_singleton.1 hm)
            exact .inr ⟨m, List.mem_append_right _ (List.mem_singleton_self _)⟩ }
    exact hs.put hw (by simp) _
  | hearMatch hp hr =>
    exact { hn with
      settled := fun h' => absurd hp h'
      delivered := fun m _ => .inl (by cases s.found <;> rfl) }
  | hearFailure hp hr =>
    exact { hn with
      settled := fun h' => absurd hp h'
      done := fun h' => by cases hp.symm.trans h'
      delivered := fun m hm => by
        obtain hf | ⟨m', hm'⟩ := hn.delivered m hm
        · exact .inl hf
        · rw [hr] at hm'
          exact .inr ⟨m', (List.mem_cons.1 hm').resolve_left (by simp)⟩ }
  | gather hp hr hw =>
    exact { hn with
      settled := fun _ => ⟨hr, fun w hi => Worker.eq_ended (List.all_eq_true.1 hw w hi)⟩
      done := fun h' => by cases h'
      finished := fun h' => by cases h' }
  | hearFault hp _ _ _ =>
    exact { hn with
      fault := fun e he => by cases he
      deaf := fun hl => ⟨(hn.deaf hl).1, rfl⟩
      done := fun h' => by cases hp.symm.trans h' }
  | overhear hp =>
    exact { hn with
      fault := fun e he => by cases he
      deaf := fun hl => ⟨(hn.deaf hl).1, rfl⟩
      done := fun h' => by cases hp.symm.trans h' }
  | deafen hp hl hf he => exact { hn with deaf := fun _ => ⟨Producer.eq_ended he, hf⟩ }
  | close hp he hf =>
    exact { hn with
      settled := fun _ => hn.settled (by simp [hp])
      done := fun _ e hs hne => by
        cases hl : s.listening with
        | true => exact absurd (hf hl e hs) hne
        | false => cases (hn.deaf hl).2.symm.trans hs
      finished := fun _ => Producer.eq_ended he }
  | closeFault hp he =>
    exact { hn with
      settled := fun _ => hn.settled (by simp [hp])
      done := fun _ _ _ _ => by simp only [State.blame]; cases s.failed <;> rfl
      finished := fun _ => Producer.eq_ended he }
  | abandon _ hp => exact { hn with }

end Orderly

end Search

end StorageDriver
