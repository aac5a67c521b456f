import StorageDriver.Proofs.SearchCover
import StorageDriver.Proofs.Standing

namespace StorageDriver.Search

/-- What a call may answer where the planes are `f`. -/
def Event.IsTrue (f : Fleet) : Event → Prop
  | .listed c (.ok ds) => ds = f.offered c
  | .searched d (.ok ms) => ms = f.residents d.host d.id
  | .connected _ (.error e) | .listed _ (.error e) => e.IsPlain
  | .opened _ (.error e) | .searched _ (.error e) => e.IsPlain
  | _ => True

theorem Event.IsTrue.fault {f : Fleet} {v : Event} (h : v.IsTrue f) {e : Error}
    (he : v.fault? = some e) : e.IsPlain := by
  cases v with
  | connected c r | opened d r | listed c r | searched d r =>
    cases r with
    | ok a => cases he
    | error e' => exact Option.some.inj he ▸ h
  | reported r => cases he

/-- The planes stay as they are while they are searched. -/
structure Seeing (q : Query) (f : Fleet) (es : List Event) (s : State Fleet) : Prop where
  query : s.query = q
  shows : s.net.Shows f
  waiting : ∀ d session due, .waiting d session due ∈ s.workers → session.host = d.host
  true_ : ∀ v ∈ es, v.IsTrue f

namespace Seeing

variable {q : Query} {f : Fleet} {es fs : List Event} {s t : State Fleet} {m : Move}

theorem append (h : Seeing q f es s) (hf : ∀ v ∈ fs, v.IsTrue f) : Seeing q f (es ++ fs) s :=
  { h with true_ := fun v hv => (List.mem_append.1 hv).elim (h.true_ v) (hf v) }

theorem put {i : Nat} {w : Worker} (h : Seeing q f es s)
    (hw : ∀ d session due, w = .waiting d session due → session.host = d.host) :
    Seeing q f es (s.put i w) :=
  { h with
    waiting := fun d session due hm => by
      obtain hm | hm := List.mem_or_eq_of_mem_set hm
      · exact h.waiting d session due hm
      · exact hw d session due hm.symm }

theorem after {i : Nat} (h : Seeing q f es s) (r : Except Error VirtualMachine) :
    Seeing q f es (s.put i (.after r)) := by
  refine h.put fun d session due hw => ?_
  unfold Worker.after at hw
  split at hw
  · split at hw <;> cases hw
  · cases hw

theorem look {α : Type} {P : α → Prop} {r : Except Error α} {n : Network Fleet} {v : Event}
    (h : Seeing q f es s) (hl : Network.Looked f P (r, n))
    (hv : (∀ a, r = .ok a → P a) → (∀ e, r = .error e → e.IsPlain) → v.IsTrue f) :
    Seeing q f (es ++ [v]) { s with net := n } :=
  { h.append fun _ hu => List.mem_singleton.1 hu ▸ hv hl.ok hl.error with shows := hl.shows }

theorem change (h : Seeing q f es s) (hc : Change s m fs t) : Seeing q f (es ++ fs) t := by
  have hn : Seeing q f (es ++ []) s := (List.append_nil es).symm ▸ h
  cases hc with
  | exhaust | stop | visit | unheard | publish => exact { hn with }
  | hearMatch | hearFailure | gather | hearFault | overhear => exact { hn with }
  | deafen | close | closeFault | abandon => exact { hn with }
  | quit | leave => exact hn.put fun _ _ _ hw => nomatch hw
  | @take i d ds =>
    have hs : Seeing q f (es ++ []) { s with stream := { s.stream with queue := ds } } :=
      { hn with }
    exact hs.put fun _ _ _ hw => nomatch hw
  | @connect c _ n _ _ hr =>
    have hl : Network.Looked f _ (.ok (), n) := hr ▸ Network.looked_connect h.shows c.host
    exact { h.look (v := .connected c (.ok ())) hl fun _ _ => trivial with }
  | @refuse c _ e n _ _ hr =>
    have hl : Network.Looked f _ (.error e, n) := hr ▸ Network.looked_connect h.shows c.host
    exact { h.look (v := .connected c (.error e)) hl fun _ he => he e rfl with }
  | @list c _ ds n _ _ hr =>
    have hl : Network.Looked f _ (.ok ds, n) := hr ▸ Network.looked_datacenters h.shows c
    exact { h.look (v := .listed c (.ok ds)) hl fun ho _ => ho ds rfl with }
  | @unlist c _ e n _ _ hr =>
    have hl : Network.Looked f _ (.error e, n) := hr ▸ Network.looked_datacenters h.shows c
    exact { h.look (v := .listed c (.error e)) hl fun _ he => he e rfl with }
  | @«open» i d session due n₁ n₂ _ _ hr hs =>
    have hl : Network.Looked f _ (.ok session, n₁) := hr ▸ Network.looked_client h.shows d.host
    have h₂ : n₂.Shows f := by
      have hs' := Network.shows_start hl.shows session (.machines d.id)
      rwa [hs] at hs'
    have hv := h.look (v := .opened d (.ok session)) hl fun _ _ => trivial
    have hn₂ : Seeing q f (es ++ [.opened d (.ok session)]) { s with net := n₂ } :=
      { hv with shows := h₂ }
    refine hn₂.put fun d' session' due' hw => ?_
    obtain ⟨rfl, rfl, rfl⟩ := Worker.waiting.inj hw
    exact hl.ok session rfl
  | @unopen i d e n _ _ hr =>
    have hl : Network.Looked f _ (.error e, n) := hr ▸ Network.looked_client h.shows d.host
    exact (h.look (v := .opened d (.error e)) hl fun _ he => he e rfl).after _
  | @look i d session due ms n _ hw hr =>
    have hl : Network.Looked f _ (.ok ms, n) := hr ▸ Network.looked_machines h.shows session d.id
    rw [h.waiting d session due (List.mem_of_getElem? hw)] at hl
    exact (h.look (v := .searched d (.ok ms)) hl fun ho _ => ho ms rfl).after _
  | @miss i d session due e n _ _ hr =>
    have hl : Network.Looked f _ (.error e, n) := hr ▸ Network.looked_machines h.shows session d.id
    exact (h.look (v := .searched d (.error e)) hl fun _ he => he e rfl).after _
  | @report i r _ =>
    have ht : ∀ v ∈ [Event.reported r], v.IsTrue f := by
      intro v hv
      obtain rfl := List.mem_singleton.1 hv
      trivial
    have hs : Seeing q f (es ++ [.reported r]) { s with results := s.results ++ [r] } :=
      { h.append ht with }
    exact hs.put fun _ _ _ hw => nomatch hw

theorem start {n : Network Fleet} (hn : n.Proper) (q : Query) (pool : Nat) (spent : Bool) :
    Seeing q n.planes [] (start q pool spent n) where
  query := rfl
  shows := ⟨hn, fun _ => rfl⟩
  waiting _ _ _ hw := nomatch List.eq_of_mem_replicate hw
  true_ := nofun

theorem wait (h : Seeing q f es s) (time : Nat) : Seeing q f es (s.wait time) :=
  { h with shows := ⟨h.shows.proper, h.shows.alike⟩ }

end Seeing

theorem seeing_follow {n : Network Fleet} (hn : n.Proper) {q : Query} {pool : Nat} {spent : Bool}
    {ms : List (Nat × Move)} {s : State Fleet} {es : List Event}
    (h : (start q pool spent n).follow ms = some (s, es)) : Seeing q n.planes es s :=
  follow_induction (.start hn q pool spent) (fun _ _ time hu => hu.wait time)
    (fun _ _ _ _ _ hu hc => hu.change hc) h

/-- What is found is the first hit among the machines of its datacenter. -/
theorem exists_of_found {n : Network Fleet} (hn : n.Proper) {q : Query} {pool : Nat} {spent : Bool}
    {ms : List (Nat × Move)} {s : State Fleet} {es : List Event}
    (h : (start q pool spent n).follow ms = some (s, es)) {m : VirtualMachine}
    (hm : s.found = some m) :
    ∃ c ∈ n.centers.map (·.2.config), ∃ d ∈ n.planes.offered c,
      ∃ i, (n.planes.residents d.host d.id).find? q.hits = some i ∧ m = .ofInfo d i := by
  have hs := seeing_follow hn h
  obtain ⟨d, docs, ⟨c, hc, ds, hl, hd⟩, hl', ha⟩ := (traced_follow h).found m hm
  obtain rfl : ds = n.planes.offered c := hs.true_ _ hl
  obtain rfl : docs = n.planes.residents d.host d.id := hs.true_ _ hl'
  rw [hs.query] at ha
  exact ⟨c, hc, d, hd, Query.match_of_answer ha⟩

/-- All that holds of a search of `n` once `es` happened. -/
structure Sound (n : Network Fleet) (q : Query) (pool : Nat) (es : List Event) (s : State Fleet) :
    Prop where
  traced : Traced (n.centers.map (·.2.config)) es s
  orderly : Orderly pool es s
  seeing : Seeing q n.planes es s
  covering : Quiet s → Covering (n.centers.map (·.2.config)) es s

section

variable {n : Network Fleet} {q : Query} {pool : Nat} {es fs : List Event} {s t : State Fleet}

theorem sound_start (hn : n.Proper) (q : Query) (pool : Nat) (spent : Bool) :
    Sound n q pool [] (start q pool spent n) where
  traced := .start n q pool spent
  orderly := .start n q pool spent
  seeing := .start hn q pool spent
  covering hq := .start n q hq.abandoned

theorem Sound.wait (h : Sound n q pool es s) (time : Nat) : Sound n q pool es (s.wait time) where
  traced := h.traced.wait time
  orderly := h.orderly.wait time
  seeing := h.seeing.wait time
  covering hq := { h.covering { hq with } with }

theorem Sound.change (hp : 0 < pool) (h : Sound n q pool es s) {m : Move} (hc : Change s m fs t) :
    Sound n q pool (es ++ fs) t := by
  have hs := h.seeing.change hc
  refine ⟨h.traced.change hc, h.orderly.change hc, hs, fun hq => ?_⟩
  have plain : ∀ v ∈ fs, ∀ e, v.fault? = some e → e.IsPlain :=
    fun v hv _ he => (hs.true_ v (List.mem_append_right _ hv)).fault he
  exact (h.covering (hq.before h.orderly hc)).change hp h.orderly hq plain hc

theorem sound_follow (hn : n.Proper) (hp : 0 < pool) {spent : Bool} {ms : List (Nat × Move)}
    (h : (start q pool spent n).follow ms = some (s, es)) : Sound n q pool es s :=
  follow_induction (sound_start hn q pool spent) (fun _ _ time hu => hu.wait time)
    (fun _ _ _ _ _ hu hc => hu.change hp hc) h

/-- A search that has ended without a word has looked everywhere. -/
theorem Sound.missed (h : Sound n q pool es s) (hp : 0 < pool) (hd : s.phase = .done)
    (hq : Quiet s) {c : Center.Config} (hc : c ∈ n.centers.map (·.2.config)) {d : Datacenter}
    (hm : d ∈ n.planes.offered c) : (n.planes.residents d.host d.id).find? q.hits = none := by
  have hv := h.covering hq
  have he := h.orderly.finished hd
  have ended : ∀ w ∈ s.workers, w = .ended := (h.orderly.settled (by simp [hd])).2
  obtain ⟨w, hw⟩ : ∃ w, w ∈ s.workers := List.exists_mem_of_length_pos (h.orderly.team ▸ hp)
  have hempty := (hv.drained (ended w hw ▸ hw)).2
  obtain ha | ⟨ds, hl, hds⟩ := hv.cover c hc
  · simp [he, Producer.ahead] at ha
  · obtain rfl : ds = n.planes.offered c := h.seeing.true_ _ hl
    obtain hd | ⟨ms, hs, hn⟩ := hds d hm
    · obtain hd | hd | ⟨u, hu, hd⟩ := hd
      · simp [he, Producer.found] at hd
      · simp [hempty] at hd
      · rw [ended u hu] at hd
        cases hd
    · obtain rfl : ms = n.planes.residents d.host d.id := h.seeing.true_ _ hs
      rwa [← h.seeing.query]

/-- `m` is the first match in an allowed datacenter of a registered center. -/
def Matches (n : Network Fleet) (q : Query) (m : VirtualMachine) : Prop :=
  ∃ c ∈ n.centers.map (·.2.config), ∃ p, n.planes.get? c.host = some p ∧
    ∃ d ∈ p.datacenters, c.allows d.id d.name = true ∧
      ∃ i, (p.machines.filter (·.datacenter = d.id)).find? q.hits = some i ∧
        m = .ofInfo (.ofInfo c.host d) i

theorem matches_iff {m : VirtualMachine} :
    Matches n q m ↔ ∃ c ∈ n.centers.map (·.2.config), ∃ d ∈ n.planes.offered c,
      ∃ i, (n.planes.residents d.host d.id).find? q.hits = some i ∧ m = .ofInfo d i := by
  refine exists_congr fun c => and_congr_right fun _ => ?_
  constructor
  · rintro ⟨p, hp, d, hd, ha, i, hi, rfl⟩
    refine ⟨.ofInfo c.host d, Fleet.mem_offered.2 ⟨p, hp, d, hd, ha, rfl⟩, i, ?_, rfl⟩
    exact (congrArg (List.find? q.hits) (Fleet.residents_of_get? hp d.id)).trans hi
  · rintro ⟨d, hd, i, hi, rfl⟩
    obtain ⟨p, hp, d', hd', ha, rfl⟩ := Fleet.mem_offered.1 hd
    have hr := congrArg (List.find? q.hits) (Fleet.residents_of_get? hp d'.id)
    exact ⟨p, hp, d', hd', ha, i, hr.symm.trans hi, rfl⟩

end

end StorageDriver.Search
