import StorageDriver.Proofs.SearchMoves

namespace StorageDriver

namespace Producer

def ahead : Producer → List Center.Config
  | visiting cs => cs
  | listing c cs => c :: cs
  | publishing _ cs => cs
  | ended => []

def found : Producer → List Datacenter
  | publishing ds _ => ds
  | _ => []

end Producer

theorem Query.isMiss_of_answer {q : Query} {d : Datacenter} {ms : List VmInfo} {e : Error}
    (h : q.answer d ms = .error e) : e.isMiss = true := by
  unfold answer at h
  split at h
  · cases h
  · obtain rfl := Except.error.inj h
    rfl

theorem Query.match_of_answer {q : Query} {d : Datacenter} {ms : List VmInfo} {m : VirtualMachine}
    (h : q.answer d ms = .ok m) : ∃ i, ms.find? q.hits = some i ∧ m = .ofInfo d i := by
  unfold answer at h
  split at h
  · exact ⟨_, ‹_›, (Except.ok.inj h).symm⟩
  · cases h

namespace Search

variable {R : Type}

namespace Worker

def hand : Worker → Option Datacenter
  | opening d | waiting d _ _ => some d
  | _ => none

def word : Worker → Option (Except Error VirtualMachine)
  | reporting r => some r
  | _ => none

theorem hand_after (r : Except Error VirtualMachine) : (after r).hand = none := by
  unfold after
  split
  · split <;> rfl
  · rfl

theorem word_after (r : Except Error VirtualMachine) :
    (after r).word = some r ∧ (∀ e, r = .error e → e.isMiss = false) ∨
      (after r).word = none ∧ ∃ e, r = .error e ∧ e.isMiss = true := by
  cases r with
  | ok m => exact .inl ⟨rfl, fun e he => nomatch he⟩
  | error e =>
    cases he : e.isMiss with
    | true => exact .inr ⟨by simp [after, he, word], e, rfl, he⟩
    | false =>
      refine .inl ⟨by simp [after, he, word], fun e' h => ?_⟩
      obtain rfl := Except.error.inj h
      exact he

end Worker

namespace Event

def fault? : Event → Option Error
  | connected _ (.error e) | listed _ (.error e) | opened _ (.error e) | searched _ (.error e) =>
    some e
  | _ => none

end Event

/-- Some listing of a center of `centers` contained `d`. -/
def Listed (centers : List Center.Config) (es : List Event) (d : Datacenter) : Prop :=
  ∃ c ∈ centers, ∃ ds, .listed c (.ok ds) ∈ es ∧ d ∈ ds

def Raised (es : List Event) (e : Error) : Prop := ∃ v ∈ es, v.fault? = some e

/-- A match is the answer to a lookup in a datacenter that was listed, a failure that of a call. -/
def Grounded (q : Query) (centers : List Center.Config) (es : List Event) :
    Except Error VirtualMachine → Prop
  | .ok m => ∃ d ms, Listed centers es d ∧ .searched d (.ok ms) ∈ es ∧ q.answer d ms = .ok m
  | .error e => Raised es e ∧ e.isMiss = false

variable {centers : List Center.Config} {es : List Event}

theorem Listed.append {d : Datacenter} (h : Listed centers es d) (fs : List Event) :
    Listed centers (es ++ fs) d := by
  obtain ⟨c, hc, ds, hl, hd⟩ := h
  exact ⟨c, hc, ds, List.mem_append_left _ hl, hd⟩

theorem Raised.append {e : Error} (h : Raised es e) (fs : List Event) : Raised (es ++ fs) e := by
  obtain ⟨v, hv, he⟩ := h
  exact ⟨v, List.mem_append_left _ hv, he⟩

theorem Grounded.append {q : Query} {r : Except Error VirtualMachine}
    (h : Grounded q centers es r) (fs : List Event) : Grounded q centers (es ++ fs) r := by
  cases r with
  | ok m =>
    obtain ⟨d, ms, hd, hs, ha⟩ := h
    exact ⟨d, ms, hd.append fs, List.mem_append_left _ hs, ha⟩
  | error e => exact ⟨h.1.append fs, h.2⟩

theorem raised_last {v : Event} {e : Error} (h : v.fault? = some e) : Raised (es ++ [v]) e :=
  ⟨v, List.mem_append_right _ (List.mem_singleton_self v), h⟩

namespace State

/-- `d` was listed and nobody has looked into it yet. -/
def Pending (s : State R) (d : Datacenter) : Prop :=
  d ∈ s.stream.producer.found ∨ d ∈ s.stream.queue ∨ ∃ w ∈ s.workers, w.hand = some d

/-- `r` is on its way to the coordinator. -/
def Tells (s : State R) (r : Except Error VirtualMachine) : Prop :=
  r ∈ s.results ∨ ∃ w ∈ s.workers, w.word = some r

theorem Pending.of_put {s : State R} {i : Nat} {w : Worker} {d : Datacenter}
    (h : (s.put i w).Pending d) : s.Pending d ∨ w.hand = some d := by
  obtain h | h | ⟨v, hv, h⟩ := h
  · exact .inl (.inl h)
  · exact .inl (.inr (.inl h))
  · obtain hv | rfl := List.mem_or_eq_of_mem_set hv
    · exact .inl (.inr (.inr ⟨v, hv, h⟩))
    · exact .inr h

theorem Tells.of_put {s : State R} {i : Nat} {w : Worker} {r : Except Error VirtualMachine}
    (h : (s.put i w).Tells r) : s.Tells r ∨ w.word = some r := by
  obtain h | ⟨v, hv, h⟩ := h
  · exact .inl (.inl h)
  · obtain hv | rfl := List.mem_or_eq_of_mem_set hv
    · exact .inl (.inr ⟨v, hv, h⟩)
    · exact .inr h

end State

/-- Everything the parties have in hand comes from a call made so far. -/
structure Traced (centers : List Center.Config) (es : List Event) (s : State R) : Prop where
  ahead : ∀ c ∈ s.stream.producer.ahead, c ∈ centers
  pending : ∀ d, s.Pending d → Listed centers es d
  fault : ∀ e, s.stream.fault = some e → e = .cancelled ∨ Raised es e
  tells : ∀ r, s.Tells r → Grounded s.query centers es r
  found : ∀ m, s.found = some m → Grounded s.query centers es (.ok m)
  failed : ∀ e, s.failed = some e → Raised es e

namespace Traced

variable {s t : State R}

theorem start (n : Network R) (q : Query) (pool : Nat) (spent : Bool) :
    Traced (n.centers.map (·.2.config)) [] (start q pool spent n) := by
  have idle : ∀ w ∈ (Search.start q pool spent n).workers, w = .idle :=
    fun w hw => List.eq_of_mem_replicate hw
  refine ⟨fun c hc => hc, fun d hd => ?_, nofun, fun r hr => ?_, nofun, nofun⟩
  · obtain hd | hd | ⟨w, hw, hd⟩ := hd
    · cases hd
    · cases hd
    · rw [idle w hw] at hd
      cases hd
  · obtain hr | ⟨w, hw, hr⟩ := hr
    · cases hr
    · rw [idle w hw] at hr
      cases hr

theorem wait (h : Traced centers es s) (time : Nat) : Traced centers es (s.wait time) :=
  { h with }

theorem append (h : Traced centers es s) (fs : List Event) : Traced centers (es ++ fs) s where
  ahead := h.ahead
  pending d hd := (h.pending d hd).append fs
  fault e he := (h.fault e he).imp_right fun hr => hr.append fs
  tells r hr := (h.tells r hr).append fs
  found m hm := (h.found m hm).append fs
  failed e he := (h.failed e he).append fs

theorem put {i : Nat} {w : Worker} (h : Traced centers es s)
    (hd : ∀ d, w.hand = some d → Listed centers es d)
    (hr : ∀ r, w.word = some r → Grounded s.query centers es r) :
    Traced centers es (s.put i w) :=
  { h with
    pending := fun d h' => h'.of_put.elim (h.pending d) (hd d)
    tells := fun r h' => h'.of_put.elim (h.tells r) (hr r) }

theorem after {i : Nat} {r : Except Error VirtualMachine} (h : Traced centers es s)
    (hr : ∀ e, r = .error e → e.isMiss = false → Raised es e)
    (hm : ∀ m, r = .ok m → Grounded s.query centers es (.ok m)) :
    Traced centers es (s.put i (.after r)) := by
  refine h.put (fun d hd => ?_) (fun r' hw => ?_)
  · rw [Worker.hand_after] at hd
    cases hd
  · obtain ⟨hs, he⟩ | ⟨hn, -⟩ := Worker.word_after r
    · obtain rfl : r = r' := Option.some.inj (hs.symm.trans hw)
      cases r with
      | ok m => exact hm m rfl
      | error e => exact ⟨hr e rfl (he e rfl), he e rfl⟩
    · rw [hn] at hw
      cases hw

theorem fail {e : Error} (h : Traced centers es s) (n : Network R)
    (he : e = .cancelled ∨ Raised es e) :
    Traced centers es { s with net := n, stream := s.stream.fail e } :=
  { h with
    ahead := fun _ hc => nomatch hc
    pending := fun d hd => h.pending d (hd.elim (fun h' => nomatch h') .inr)
    fault := fun _ he' => Option.some.inj he' ▸ he }

theorem blame {e : Error} (h : Traced centers es s) (he : Raised es e) :
    ∀ e', (s.blame e).failed = some e' → Raised es e' := by
  intro e' h'
  cases hf : s.failed with
  | none =>
    have he' : some e = some e' := by simpa [State.blame, hf] using h'
    exact Option.some.inj he' ▸ he
  | some a =>
    have he' : some a = some e' := by simpa [State.blame, hf] using h'
    exact h.failed e' (hf.trans he')

variable [Remote R]

theorem change {m : Move} {fs : List Event} (h : Traced centers es s) (hc : Change s m fs t) :
    Traced centers (es ++ fs) t := by
  have h' := h.append fs
  cases hc with
  | exhaust hp =>
    exact { h' with
      ahead := fun c hc => nomatch hc
      pending := fun d hd => h'.pending d (hd.elim (fun hd => nomatch hd) .inr) }
  | stop => exact h'.fail s.net (.inl rfl)
  | connect _ hp =>
    exact { h' with
      ahead := fun c hc => h'.ahead c (by rwa [hp])
      pending := fun d hd => h'.pending d (hd.elim (fun hd => nomatch hd) .inr) }
  | refuse => exact h'.fail _ (.inr (raised_last rfl))
  | list _ hp =>
    refine { h' with
      ahead := fun c hc => h'.ahead c (by rw [hp]; exact List.mem_cons_of_mem _ hc)
      pending := fun d hd => ?_ }
    obtain hd | hd := hd
    · exact ⟨_, h.ahead _ (by rw [hp]; exact List.mem_cons_self), _,
        List.mem_append_right _ (List.mem_singleton_self _), hd⟩
    · exact h'.pending d (.inr hd)
  | unlist => exact h'.fail _ (.inr (raised_last rfl))
  | visit hp =>
    exact { h' with
      ahead := fun c hc => h'.ahead c (by rwa [hp])
      pending := fun d hd => h'.pending d (hd.elim (fun hd => nomatch hd) .inr) }
  | unheard =>
    exact { h' with
      ahead := fun c hc => nomatch hc
      pending := fun d hd => h'.pending d (hd.elim (fun hd => nomatch hd) .inr) }
  | publish _ hp =>
    refine { h' with
      ahead := fun c hc => h'.ahead c (by rwa [hp])
      pending := fun d hd => h'.pending d ?_ }
    obtain hd | hd | hd := hd
    · exact .inl (by rw [hp]; exact List.mem_cons_of_mem _ hd)
    · obtain hd | hd := List.mem_append.1 hd
      · exact .inr (.inl hd)
      · exact .inl (by rw [hp, List.mem_singleton.1 hd]; exact List.mem_cons_self)
    · exact .inr (.inr hd)
  | quit => exact h'.put (fun d hd => nomatch hd) (fun r hr => nomatch hr)
  | @take i d ds _ _ hq =>
    have hs : Traced centers (es ++ []) { s with stream := { s.stream with queue := ds } } :=
      { h' with
        pending := fun d' hd => h'.pending d' (hd.imp_right fun hd =>
          hd.imp_left fun hd => by rw [hq]; exact List.mem_cons_of_mem _ hd) }
    refine hs.put (fun d' hd => ?_) (fun r hr => nomatch hr)
    obtain rfl := Option.some.inj hd
    exact h'.pending d (.inr (.inl (by rw [hq]; exact List.mem_cons_self)))
  | leave => exact h'.put (fun d hd => nomatch hd) (fun r hr => nomatch hr)
  | @«open» i d session due n₁ n₂ _ hw =>
    have hs : Traced centers (es ++ [.opened d (.ok session)]) { s with net := n₂ } := { h' with }
    refine hs.put (fun d' hd => ?_) (fun r hr => nomatch hr)
    obtain rfl := Option.some.inj hd
    exact h'.pending d (.inr (.inr ⟨_, List.mem_of_getElem? hw, rfl⟩))
  | @unopen i d e n =>
    have hs : Traced centers (es ++ [.opened d (.error e)]) { s with net := n } := { h' with }
    refine hs.after (fun e' he _ => ?_) (fun m hm => nomatch hm)
    obtain rfl := Except.error.inj he
    exact raised_last rfl
  | @look i d session due ms n _ hw =>
    have hs : Traced centers (es ++ [.searched d (.ok ms)]) { s with net := n } := { h' with }
    have hd := h'.pending d (.inr (.inr ⟨_, List.mem_of_getElem? hw, rfl⟩))
    refine hs.after (fun e he hm => ?_) (fun m hm => ?_)
    · exact absurd (Query.isMiss_of_answer he) (by simp [hm])
    · exact ⟨d, ms, hd, List.mem_append_right _ (List.mem_singleton_self _), hm⟩
  | @miss i d session due e n =>
    have hs : Traced centers (es ++ [.searched d (.error e)]) { s with net := n } := { h' with }
    refine hs.after (fun e' he _ => ?_) (fun m hm => nomatch hm)
    obtain rfl := Except.error.inj he
    exact raised_last rfl
  | @report i r hw =>
    have hr := h'.tells r (.inr ⟨_, List.mem_of_getElem? hw, rfl⟩)
    have hs : Traced centers (es ++ [.reported r]) { s with results := s.results ++ [r] } :=
      { h' with
        tells := fun r' hr' => by
          obtain hr' | hr' := hr'
          · obtain hr' | hr' := List.mem_append.1 hr'
            · exact h'.tells r' (.inl hr')
            · exact List.mem_singleton.1 hr' ▸ hr
          · exact h'.tells r' (.inr hr') }
    exact hs.put (fun d hd => nomatch hd) (fun r hr => nomatch hr)
  | hearMatch _ hr =>
    refine { h' with
      tells := fun r hs => h'.tells r (hs.imp_left fun hs => hr ▸ List.mem_cons_of_mem _ hs)
      found := fun m hm => ?_ }
    cases hf : s.found with
    | none =>
      simp [hf] at hm
      exact hm ▸ h'.tells _ (.inl (by rw [hr]; exact List.mem_cons_self))
    | some a =>
      simp [hf] at hm
      exact h'.found m (hf.trans (congrArg some hm))
  | hearFailure _ hr =>
    exact { h' with
      tells := fun r hs => h'.tells r (hs.imp_left fun hs => hr ▸ List.mem_cons_of_mem _ hs)
      failed :=
        have hg : Grounded s.query centers (es ++ []) (.error _) :=
          h'.tells _ (.inl (by rw [hr]; exact List.mem_cons_self))
        h'.blame hg.1 }
  | gather => exact { h' with }
  | hearFault _ _ hf he =>
    exact { h' with
      fault := fun e hf => nomatch hf
      failed := h'.blame ((h'.fault _ hf).resolve_left he) }
  | overhear => exact { h' with fault := fun e hf => nomatch hf }
  | deafen => exact { h' with }
  | close => exact { h' with }
  | closeFault _ _ _ hf hn =>
    exact { h' with failed := h'.blame ((h'.fault _ hf).resolve_left hn) }
  | abandon => exact { h' with }

end Traced

/-- Whatever a search has come to is from a call that it made. -/
theorem traced_follow [Remote R] {n : Network R} {q : Query} {pool : Nat} {spent : Bool}
    {ms : List (Nat × Move)} {s : State R} (h : (start q pool spent n).follow ms = some (s, es)) :
    Traced (n.centers.map (·.2.config)) es s :=
  follow_induction (.start n q pool spent) (fun _ _ time hu => hu.wait time)
    (fun _ _ _ _ _ hu hc => hu.change hc) h

theorem found_of_outcome {s : State R} {m : VirtualMachine} (h : s.outcome = .ok m) :
    s.found = some m := by
  unfold State.outcome at h
  split at h
  · rename_i hf
    exact hf.trans (congrArg some (Except.ok.inj h))
  · cases h
  · cases h

section

variable [Remote R]

theorem query_follow {s t : State R} {ms : List (Nat × Move)} (h : s.follow ms = some (t, es)) :
    t.query = s.query := by
  refine follow_induction (P := fun _ u => u.query = s.query) rfl (fun _ _ _ hu => hu) ?_ h
  intro _ _ _ u v hu hc
  cases hc <;> exact hu

theorem run_search_of_isEmpty (n : Network R) (pool : Nat) (patience : Patience) {q : Query}
    (hq : q.isEmpty = true) :
    (Network.search pool patience q).run.run n = (.error Query.unfit, n) := by
  show Network.search pool patience q n = _
  unfold Network.search
  rw [if_pos hq]

theorem exists_follow_search (n : Network R) (pool : Nat) (patience : Patience) {q : Query}
    (hq : q.isEmpty = false) :
    ∃ ms s es, (start q pool (patience = .spent) n).follow ms = some (s, es) ∧
      (Network.search pool patience q).run.run n = (s.outcome, s.net) := by
  show ∃ ms s es, _ ∧ Network.search pool patience q n = _
  unfold Network.search
  rw [if_neg (by simp [hq])]
  obtain ⟨ms, es, hf⟩ := exists_follow_run _ (start q pool (patience = .spent) n)
  exact ⟨ms, _, es, hf, rfl⟩

/-- Whatever the planes answer, what a search finds is a hit. -/
theorem hit_of_follow {n : Network R} {pool : Nat} {spent : Bool} {q : Query}
    {ms : List (Nat × Move)} {s : State R} {es : List Event}
    (hf : (start q pool spent n).follow ms = some (s, es)) {m : VirtualMachine}
    (h : s.outcome = .ok m) : ∃ d i, q.hits i = true ∧ m = .ofInfo d i := by
  obtain ⟨d, infos, -, -, ha⟩ := (traced_follow hf).found m (found_of_outcome h)
  obtain ⟨i, hi, rfl⟩ := Query.match_of_answer ha
  rw [query_follow hf] at hi
  exact ⟨d, i, List.find?_some hi, rfl⟩

end

end Search

end StorageDriver
