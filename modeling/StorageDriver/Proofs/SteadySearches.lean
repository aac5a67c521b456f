import StorageDriver.Proofs.SearchOutcome
import StorageDriver.Proofs.SearchRuns
import StorageDriver.Proofs.SteadyCalls
import StorageDriver.Proofs.TwinSearches

namespace StorageDriver

variable {cs : List Center.Config} {f : Fleet}

/-- Both stand before the same planes, and the second is `δ` later. -/
structure Network.Abreast (cs : List Center.Config) (f : Fleet) (δ : Nat) (n m : Network Fleet) :
    Prop where
  here : n.Stands cs f
  there : m.Stands cs f
  clock : m.clock = n.clock + δ

namespace Network.Abreast

variable {α : Type} {δ : Nat} {n m : Network Fleet} {r : Except Error α}
  {x y : Except Error α × Network Fleet}

theorem agree (h : Abreast cs f δ n m) (hx : Tells cs f n r x) (hy : Tells cs f m r y) :
    Agree (Abreast cs f δ) x y := by
  refine ⟨hx.answer.trans hy.answer.symm, hx.stands, hy.stands, ?_⟩
  rw [hx.clock, hy.clock, h.clock]

end Network.Abreast

theorem Network.Abreast.twins (δ : Nat) : Network.Twins id δ (Network.Abreast cs f δ) where
  configs h := by rw [h.here.configs, h.there.configs]
  clock h := h.clock
  wait h time := by
    refine ⟨h.here.wait _, h.there.wait _, ?_⟩
    rw [h.clock, Nat.add_max_add_right]
  connect := by
    rintro n m h c c' rfl
    exact h.agree (h.here.connect _) (h.there.connect _)
  datacenters := by
    rintro n m h c c' rfl
    exact h.agree (h.here.datacenters c) (h.there.datacenters c)
  client h host := h.agree (h.here.client host) (h.there.client host)
  start := by
    intro n m h s id
    obtain ⟨due, here, clock⟩ := h.here.start s (.machines id)
    obtain ⟨due', there, clock'⟩ := h.there.start s (.machines id)
    refine ⟨?_, here, there, ?_⟩
    · rw [due, due', h.clock, Nat.add_right_comm]
    · rw [clock, clock', h.clock]
  finish h s id := h.agree (h.here.finish (r := .machines id) trivial s)
    (h.there.finish (r := .machines id) trivial s)

theorem Network.Stands.proper {n : Network Fleet} (h : n.Stands cs f) : n.Proper := by
  refine fun host hd hc => ⟨h.keyed _ (Table.mem_of_get? hc), fun s hs => ?_⟩
  obtain ⟨rfl, -⟩ := h.met _ (Table.mem_of_get? hc) s hs
  rfl

theorem World.exists_awaits {R : Type} [Remote R] (env : Setting) (w : World R) (a : Action) :
    ∃ x u, w.Awaits env a x u := by
  cases a with
  | search q =>
    cases hq : q.isEmpty with
    | true => exact ⟨_, w, .unfit hq⟩
    | false =>
      obtain ⟨ms, es, hf⟩ := Search.exists_follow_run none (Search.start q env.pool false w.net)
      obtain ⟨hd, ha⟩ := Search.State.ends_of_run (.start w.net q env.pool false)
      exact ⟨_, _, .search hq hf hd ha⟩
  | _ => exact ⟨_, _, .direct trivial⟩

theorem Search.pool_pos_of_found {R : Type} [Remote R] {n : Network R} {q : Query} {pool : Nat}
    {spent : Bool} {ms : List (Nat × Search.Move)} {t : Search.State R} {es : List Search.Event}
    (hf : (Search.start q pool spent n).follow ms = some (t, es)) {v : VirtualMachine}
    (hv : t.found = some v) : 0 < pool := by
  by_contra hp
  obtain rfl := Nat.eq_zero_of_not_pos hp
  have none : t.workers = [] ∧ t.results = [] ∧ t.found = none := by
    refine Search.follow_induction (P := fun _ u => u.workers = [] ∧ u.results = [] ∧
      u.found = none) ⟨rfl, rfl, rfl⟩ (fun _ _ _ hu => hu) ?_ hf
    rintro _ _ _ u v ⟨hw, hr, hu⟩ hc
    cases hc with
    | quit _ hi | take _ hi | leave _ hi | «open» _ hi | unopen _ hi | look _ hi | miss _ hi =>
      simp [hw] at hi
    | report hi => simp [hw] at hi
    | hearMatch _ hs | hearFailure _ hs => simp [hr] at hs
    | _ => exact ⟨hw, hr, hu⟩
  cases none.2.2.symm.trans hv

/-- Planes that stay as they are, with the centers and the cluster through which they are seen. -/
structure Scene where
  setting : Setting
  centers : List Center.Config
  planes : Fleet

namespace Scene

def begun (s : Scene) : Network Fleet where
  centers := s.centers.map fun c => (c.host, { config := c })
  planes := s.planes

theorem configs_begun (s : Scene) : s.begun.centers.map (·.2.config) = s.centers := by
  show (s.centers.map _).map _ = _
  rw [List.map_map]
  exact List.map_id _

theorem stands_begun (s : Scene) : s.begun.Stands s.centers s.planes where
  configs := s.configs_begun
  keyed c hc := by
    obtain ⟨c, -, rfl⟩ := List.mem_map.1 hc
    rfl
  met c hc _ hs := by
    obtain ⟨c, -, rfl⟩ := List.mem_map.1 hc
    cases hs
  alike _ := rfl

/-- The first hits in the datacenters that may be searched. -/
def candidates (s : Scene) (q : Query) : List VirtualMachine :=
  s.centers.flatMap fun c => (s.planes.offered c).filterMap fun d =>
    ((s.planes.residents d.host d.id).find? q.hits).map (.ofInfo d)

/-- What a search may come to. -/
def Finds (s : Scene) (q : Query) (r : Except Error VirtualMachine) : Prop :=
  ∃ u, World.Awaits s.setting { net := s.begun } (.search q) r u

variable {s : Scene} {q : Query} {r : Except Error VirtualMachine} {w u : World Fleet}

theorem beside_begun (hw : w.net.Stands s.centers s.planes) (q : Query) :
    Search.State.Beside id w.net.clock (Network.Abreast s.centers s.planes w.net.clock)
      (Search.start q s.setting.pool false s.begun) (Search.start q s.setting.pool false w.net) :=
  Search.State.beside_start (Network.Abreast.twins _)
    ⟨s.stands_begun, hw, (Nat.zero_add _).symm⟩ q s.setting.pool false

/-- What a search comes to does not depend on what was asked before. -/
theorem finds_of_awaits (hw : w.net.Stands s.centers s.planes)
    (h : w.Awaits s.setting (.search q) r u) :
    s.Finds q r ∧ u.net.Stands s.centers s.planes ∧ u.nodes = w.nodes := by
  cases h with
  | direct ha => cases ha
  | unfit hq => exact ⟨⟨_, .unfit hq⟩, hw, rfl⟩
  | search hq hf hd ha =>
    obtain ⟨t, es, hf, left⟩ := (beside_begun hw q).follow_back (Network.Abreast.twins _) hf
    obtain ⟨-, phase, -, abandoned, -⟩ := left.common
    have found : World.Awaits s.setting { net := s.begun } (.search q) t.outcome { net := t.net } :=
      .search hq hf (phase.symm.trans hd) (abandoned.symm.trans ha)
    exact ⟨⟨_, left.outcome ▸ found⟩, left.nets.there, rfl⟩

theorem awaits_of_finds (hw : w.net.Stands s.centers s.planes) (h : s.Finds q r) :
    ∃ u, w.Awaits s.setting (.search q) r u := by
  obtain ⟨u, h⟩ := h
  cases h with
  | direct ha => cases ha
  | unfit hq => exact ⟨w, .unfit hq⟩
  | search hq hf hd ha =>
    obtain ⟨t, es, hf, left⟩ := (beside_begun hw q).follow (Network.Abreast.twins _) hf
    obtain ⟨-, phase, -, abandoned, -⟩ := left.common
    rw [left.outcome]
    exact ⟨_, .search hq hf (phase.trans hd) (abandoned.trans ha)⟩

theorem Finds.exists_follow (h : s.Finds q r) : r = .error Query.unfit ∨
    ∃ ms t es, (Search.start q s.setting.pool false s.begun).follow ms = some (t, es) ∧
      t.phase = .done ∧ t.abandoned = false ∧ r = t.outcome := by
  obtain ⟨u, h⟩ := h
  cases h with
  | direct ha => cases ha
  | unfit hq => exact .inl rfl
  | search hq hf hd ha => exact .inr ⟨_, _, _, hf, hd, ha, rfl⟩

theorem Finds.hit {v : VirtualMachine} (h : s.Finds q (.ok v)) :
    ∃ d i, q.hits i = true ∧ v = .ofInfo d i := by
  obtain h | ⟨ms, t, es, hf, -, -, h⟩ := h.exists_follow
  · cases h
  · exact Search.hit_of_follow hf h.symm

theorem mem_candidates {v : VirtualMachine} : v ∈ s.candidates q ↔
    ∃ c ∈ s.centers, ∃ d ∈ s.planes.offered c,
      ∃ i, (s.planes.residents d.host d.id).find? q.hits = some i ∧ v = .ofInfo d i := by
  simp only [candidates, List.mem_flatMap, List.mem_filterMap, Option.map_eq_some_iff,
    @eq_comm _ v]

theorem Finds.candidate {v : VirtualMachine} (h : s.Finds q (.ok v)) :
    0 < s.setting.pool ∧ v ∈ s.candidates q := by
  obtain h | ⟨ms, t, es, hf, -, -, h⟩ := h.exists_follow
  · cases h
  · have found := Search.found_of_outcome h.symm
    refine ⟨Search.pool_pos_of_found hf found, mem_candidates.2 ?_⟩
    rw [← s.configs_begun]
    exact Search.exists_of_found s.stands_begun.proper hf found

theorem candidates_of_silent (hp : 0 < s.setting.pool) {ms : List (Nat × Search.Move)}
    {t : Search.State Fleet} {es : List Search.Event}
    (hf : (Search.start q s.setting.pool false s.begun).follow ms = some (t, es))
    (done : t.phase = .done) (ha : t.abandoned = false) (found : t.found = none)
    (failed : t.failed = none) : s.candidates q = [] := by
  have sound := Search.sound_follow s.stands_begun.proper hp hf
  refine List.eq_nil_iff_forall_not_mem.2 fun v hv => ?_
  obtain ⟨c, hc, d, hd, i, hi, -⟩ := mem_candidates.1 hv
  rw [← s.configs_begun] at hc
  cases hi.symm.trans (sound.missed hp done (sound.orderly.quiet done found failed ha) hc hd)

theorem Finds.missed {e : Error} (h : s.Finds q (.error e)) (he : e.isMiss = true)
    (hp : 0 < s.setting.pool) : s.candidates q = [] := by
  obtain h | ⟨ms, t, es, hf, done, ha, h⟩ := h.exists_follow
  · obtain rfl := Except.error.inj h
    cases he
  · have sound := Search.sound_follow s.stands_begun.proper hp hf
    have found : t.found = none := by
      cases hm : t.found with
      | none => rfl
      | some m => simp [Search.State.outcome, hm] at h
    have failed : t.failed = none := by
      cases hx : t.failed with
      | none => rfl
      | some x =>
        obtain rfl : e = x := by simpa [Search.State.outcome, found, hx] using h
        obtain ⟨ev, hev, hx⟩ := sound.traced.failed e hx
        cases he.symm.trans ((sound.seeing.true_ ev hev).fault hx).1
    exact candidates_of_silent hp hf done ha found failed

/-- What misses a machine once never finds one. -/
theorem Finds.unfound {e : Error} (h : s.Finds q (.error e)) (he : e.isMiss = true)
    (v : VirtualMachine) : ¬ s.Finds q (.ok v) := by
  intro hv
  obtain ⟨hp, found⟩ := hv.candidate
  rw [h.missed he hp] at found
  cases found

/-- No call to its planes fails. -/
structure Open (s : Scene) : Prop where
  greets : ∀ c ∈ s.centers, (s.planes.greets s.centers c.host).isOk = true
  lists : ∀ c ∈ s.centers, (s.planes.lists s.centers c).isOk = true
  looks : ∀ c ∈ s.centers, ∀ d ∈ s.planes.offered c,
    (s.planes.answers ⟨d.host, 0⟩ (.machines d.id)).isOk = true

section

variable {pool : Nat} {es fs : List Search.Event} {t t' : Search.State Fleet} {m : Search.Move}

theorem stands_change (ht : t.net.Stands s.centers s.planes) (hc : Search.Change t m fs t') :
    t'.net.Stands s.centers s.planes := by
  cases hc with
  | connect _ _ hn | refuse _ _ hn => exact (Prod.mk.inj hn).2 ▸ (ht.connect _).stands
  | list _ _ hn | unlist _ _ hn => exact (Prod.mk.inj hn).2 ▸ (ht.datacenters _).stands
  | @«open» i d session due n₁ n₂ _ _ hn hs =>
    have opened := (ht.client d.host).stands
    rw [hn] at opened
    have started := (opened.start session (.machines d.id)).2.1
    rwa [hs] at started
  | unopen _ _ hn => exact (Prod.mk.inj hn).2 ▸ (ht.client _).stands
  | look _ _ hn | miss _ _ hn =>
    exact (Prod.mk.inj hn).2 ▸ (ht.finish (r := .machines _) trivial _).stands
  | _ => exact ht

theorem exists_offered (traced : Search.Traced s.centers es t)
    (seeing : Search.Seeing q s.planes es t) {d : Datacenter} (hd : t.Pending d) :
    ∃ c ∈ s.centers, d ∈ s.planes.offered c := by
  obtain ⟨c, hc, ds, hl, hd⟩ := traced.pending d hd
  obtain rfl : ds = s.planes.offered c := seeing.true_ _ hl
  exact ⟨c, hc, hd⟩

theorem Open.change (h : s.Open) (traced : Search.Traced s.centers es t)
    (seeing : Search.Seeing q s.planes es t) (ht : t.net.Stands s.centers s.planes)
    (hc : Search.Change t m fs t') : ∀ v ∈ fs, v.fault? = none := by
  have pending {i : Nat} {w : Search.Worker} {d : Datacenter} (hw : t.workers[i]? = some w)
      (hd : w.hand = some d) : ∃ c ∈ s.centers, d ∈ s.planes.offered c :=
    exists_offered traced seeing (.inr (.inr ⟨w, List.mem_of_getElem? hw, hd⟩))
  cases hc with
  | refuse _ hp hn =>
    have ok := h.greets _ (traced.ahead _ (by rw [hp]; exact List.mem_cons_self))
    rw [← (ht.connect _).answer, hn] at ok
    cases ok
  | unlist _ hp hn =>
    have ok := h.lists _ (traced.ahead _ (by rw [hp]; exact List.mem_cons_self))
    rw [← (ht.datacenters _).answer, hn] at ok
    cases ok
  | unopen _ hw hn =>
    obtain ⟨c, hc, hd⟩ := pending hw rfl
    obtain ⟨p, -, d', -, -, rfl⟩ := Fleet.mem_offered.1 hd
    have ok := h.greets c hc
    have answer := (ht.client c.host).answer
    change (Network.client c.host).run.run t.net = _ at hn
    rw [hn] at answer
    cases hg : s.planes.greets s.centers c.host with
    | error e =>
      rw [hg] at ok
      cases ok
    | ok u =>
      rw [hg] at answer
      cases answer
  | @miss i d session due e n _ hw hn =>
    obtain ⟨c, hc, hd⟩ := pending hw rfl
    have ok := h.looks c hc d hd
    have answer := (ht.finish (r := .machines d.id) trivial session).answer
    have same : s.planes.answers session (.machines d.id) =
        s.planes.answers ⟨session.host, 0⟩ (.machines d.id) := rfl
    rw [same, seeing.waiting d session due (List.mem_of_getElem? hw), hn] at answer
    rw [← answer] at ok
    cases ok
  | _ => simp [Search.Event.fault?]

theorem Open.clean (h : s.Open) {ms : List (Nat × Search.Move)}
    (hf : (Search.start q pool false s.begun).follow ms = some (t, es)) :
    ∀ v ∈ es, v.fault? = none := by
  suffices Search.Traced s.centers es t ∧ Search.Seeing q s.planes es t ∧
      t.net.Stands s.centers s.planes ∧ ∀ v ∈ es, v.fault? = none from this.2.2.2
  refine Search.follow_induction (P := fun es u => Search.Traced s.centers es u ∧
    Search.Seeing q s.planes es u ∧ u.net.Stands s.centers s.planes ∧ ∀ v ∈ es, v.fault? = none)
    ?_ ?_ ?_ hf
  · refine ⟨?_, .start s.stands_begun.proper q _ false, s.stands_begun, nofun⟩
    have traced := Search.Traced.start s.begun q pool false
    rwa [s.configs_begun] at traced
  · rintro es u time ⟨traced, seeing, stands, clean⟩
    exact ⟨traced.wait time, seeing.wait time, stands.wait _, clean⟩
  · rintro es fs m u v ⟨traced, seeing, stands, clean⟩ hc
    refine ⟨traced.change hc, seeing.change hc, stands_change stands hc, fun e he => ?_⟩
    exact (List.mem_append.1 he).elim (clean e) (h.change traced seeing stands hc e)

/-- Where no call fails, a machine is found if there is one. -/
theorem Open.finds_ok (h : s.Open) (hp : 0 < s.setting.pool) (hq : q.isEmpty = false)
    (hit : s.candidates q ≠ []) (hr : s.Finds q r) : ∃ v, r = .ok v := by
  obtain ⟨u, hr⟩ := hr
  cases hr with
  | direct ha => cases ha
  | unfit hu => cases hq.symm.trans hu
  | @search _ ms t es _ hf done ha =>
    cases found : t.found with
    | some v => exact ⟨v, by simp [Search.State.outcome, found]⟩
    | none =>
      have failed : t.failed = none := by
        cases hx : t.failed with
        | none => rfl
        | some x =>
          obtain ⟨ev, hev, hx⟩ := (Search.traced_follow hf).failed x hx
          cases (h.clean hf ev hev).symm.trans hx
      exact absurd (candidates_of_silent hp hf done ha found failed) hit

end

end Scene

end StorageDriver
