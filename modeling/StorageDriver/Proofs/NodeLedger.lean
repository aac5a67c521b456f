import StorageDriver.Proofs.NodeOrder

namespace StorageDriver

namespace Spot

/-- Nothing has been done yet that anyone could tell from the names and machines. -/
def IsEarly : Spot → Prop
  | asking | claiming | waiting _ | entered _ => True
  | _ => False

def IsInside : Spot → Prop
  | inside _ _ => True
  | _ => False

/-- What is still to be done turns `n` into `m` and comes to `r`. -/
def Owes (name : String) (e : Errand) (o : (a : Action) → a.Answer) (n m : Nodes)
    (r : Except Error Unit) : Spot → Prop
  | inside _ p => p.alone o n = (r, m) ∧ e.Registered name n
  | tidying _ r' | leaving _ r' | gone r' => r' = r
  | _ => False

theorem Owes.not_early {name : String} {e : Errand} {o : (a : Action) → a.Answer} {n m : Nodes}
    {r : Except Error Unit} {s : Spot} (h : s.Owes name e o n m r) : ¬ s.IsEarly := by
  cases s <;> first | exact id | cases h

theorem Owes.of_not_inside {name : String} {e : Errand} {o : (a : Action) → a.Answer}
    {n m n' m' : Nodes} {r : Except Error Unit} {s : Spot} (h : s.Owes name e o n m r)
    (hs : ¬ s.IsInside) : s.Owes name e o n' m' r := by
  cases s <;> first | exact h | exact absurd trivial hs

end Spot

/-- The errands in `ledger` have taken effect one after another, and `after` is what comes of the
nodes once they are through. -/
structure Settled (name : String) (errands : List Errand) (o : Nat → (a : Action) → a.Answer)
    (before : Nodes) (c : Crowd Nodes (Except Error Unit)) (vs : List (Errand × Spot))
    (ledger : List (Nat × Except Error Unit)) (after : Nodes) : Prop where
  ran : inTurn (errands.map (·.proc name)) o (ledger.map (·.1)) before = (ledger.map (·.2), after)
  owes : ∀ (j : Nat) (r : Except Error Unit), (j, r) ∈ ledger → ∃ e s, vs[j]? = some (e, s) ∧
    s.Owes name e (o j) c.store.bare after.bare r
  early : ∀ (j : Nat) (e : Errand) (s : Spot), vs[j]? = some (e, s) → j ∉ ledger.map (·.1) →
    s.IsEarly
  quiet : (∀ (j : Nat) (e : Errand) (s : Spot), vs[j]? = some (e, s) → ¬ s.IsInside) →
    after.bare = c.store.bare
  nodup : (ledger.map (·.1)).Nodup
  order : (ledger.map (·.1)).Pairwise (Ahead c.log)
  acted : ∀ j ∈ ledger.map (·.1), ∃ d ∈ c.log, d.who = j

namespace Settled

variable {name : String} {errands : List Errand} {o : Nat → (a : Action) → a.Answer}
  {before after : Nodes} {c d : Crowd Nodes (Except Error Unit)} {vs : List (Errand × Spot)}
  {ledger : List (Nat × Except Error Unit)} {i : Nat} {e : Errand} {s t : Spot}

theorem not_mem_of_early (h : Settled name errands o before c vs ledger after)
    (hi : vs[i]? = some (e, s)) (hs : s.IsEarly) : i ∉ ledger.map (·.1) := by
  intro hm
  obtain ⟨⟨j, r⟩, hj, rfl⟩ := List.mem_map.1 hm
  obtain ⟨e', s', hi', ho⟩ := h.owes j r hj
  obtain ⟨rfl, rfl⟩ := Prod.mk.inj (Option.some.inj (hi.symm.trans hi'))
  exact ho.not_early hs

/-- Whoever is not early is in the ledger. -/
theorem owed (h : Settled name errands o before c vs ledger after) (hi : vs[i]? = some (e, s))
    (hs : ¬ s.IsEarly) :
    ∃ r, (i, r) ∈ ledger ∧ s.Owes name e (o i) c.store.bare after.bare r := by
  have hm : i ∈ ledger.map (·.1) := Decidable.byContradiction fun hm => hs (h.early i e s hi hm)
  obtain ⟨⟨j, r⟩, hr, rfl⟩ := List.mem_map.1 hm
  obtain ⟨e', s', hi', ho⟩ := h.owes j r hr
  obtain ⟨rfl, rfl⟩ := Prod.mk.inj (Option.some.inj (hi.symm.trans hi'))
  exact ⟨r, hr, ho⟩

/-- Whether the name is registered is decided as soon as an errand takes effect. -/
theorem registered (h : Settled name errands o before c vs ledger after)
    (hg : Guarded name c.store vs) :
    (after.uuids.get? name).isSome = (c.store.uuids.get? name).isSome := by
  by_cases hn : ∃ (j : Nat) (e : Errand) (s : Spot), vs[j]? = some (e, s) ∧ s.IsInside
  · obtain ⟨j, e, s, hj, hs⟩ := hn
    cases s with
    | inside l p =>
      obtain ⟨r, -, ho⟩ := h.owed hj id
      have ha := Errand.registered_alone (o := o j) (hg.careful j e _ hj) ho.2
      rw [ho.1] at ha
      exact ha.trans ho.2.symm
    | _ => cases hs
  · have hq := h.quiet fun j e s hj hs => hn ⟨j, e, s, hj, hs⟩
    exact congrArg (fun m => (m.uuids.get? name).isSome) hq

theorem pass (h : Settled name errands o before c vs ledger after) (hi : vs[i]? = some (e, s))
    {a : Action} {x : a.Answer} (hl : d.log = c.log ++ [⟨i, a, x⟩])
    (hd : d.store.bare = c.store.bare) (early : s.IsEarly → t.IsEarly)
    (owes : ∀ r, s.Owes name e (o i) c.store.bare after.bare r →
      t.Owes name e (o i) c.store.bare after.bare r)
    (quiet : s.IsInside → after.bare = c.store.bare) :
    Settled name errands o before d (vs.set i (e, t)) ledger after where
  ran := h.ran
  owes j r hj := by
    obtain ⟨e', s', hs, ho⟩ := h.owes j r hj
    rw [hd]
    by_cases hn : j = i
    · subst hn
      obtain ⟨rfl, rfl⟩ := Prod.mk.inj (Option.some.inj (hi.symm.trans hs))
      exact ⟨e, t, (getElem?_set_iff hi).2 (.inl ⟨rfl, rfl⟩), owes r ho⟩
    · exact ⟨e', s', (getElem?_set_iff hi).2 (.inr ⟨hn, hs⟩), ho⟩
  early j e' s' hj hm := by
    obtain ⟨rfl, hs⟩ | ⟨-, hj⟩ := (getElem?_set_iff hi).1 hj
    · obtain ⟨rfl, rfl⟩ := Prod.mk.inj hs
      exact early (h.early j e' s hi hm)
    · exact h.early j e' s' hj hm
  quiet hn := by
    rw [hd]
    by_cases hs : s.IsInside
    · exact quiet hs
    · refine h.quiet fun j e' s' hj => ?_
      by_cases hij : j = i
      · subst hij
        obtain ⟨rfl, rfl⟩ := Prod.mk.inj (Option.some.inj (hi.symm.trans hj))
        exact hs
      · exact hn j e' s' ((getElem?_set_iff hi).2 (.inr ⟨hij, hj⟩))
  nodup := h.nodup
  order := h.order.imp fun ha => hl ▸ ha.append _
  acted j hj := by
    obtain ⟨f, hf, hw⟩ := h.acted j hj
    exact ⟨f, hl ▸ List.mem_append_left _ hf, hw⟩

theorem commit (h : Settled name errands o before c vs ledger after) (hi : vs[i]? = some (e, s))
    (he : errands[i]? = some e) (hs : s.IsEarly) {a : Action} {x : a.Answer}
    (hl : d.log = c.log ++ [⟨i, a, x⟩])
    (own : t.Owes name e (o i) d.store.bare ((e.proc name).alone (o i) after).2.bare
      ((e.proc name).alone (o i) after).1)
    (others : ∀ (j : Nat) (f : Errand) (u : Spot) (r : Except Error Unit), j ≠ i →
      vs[j]? = some (f, u) → u.Owes name f (o j) c.store.bare after.bare r →
        u.Owes name f (o j) d.store.bare ((e.proc name).alone (o i) after).2.bare r)
    (quiet : (∀ (j : Nat) (f : Errand) (u : Spot), (vs.set i (e, t))[j]? = some (f, u) →
      ¬ u.IsInside) → ((e.proc name).alone (o i) after).2.bare = d.store.bare) :
    Settled name errands o before d (vs.set i (e, t))
      (ledger ++ [(i, ((e.proc name).alone (o i) after).1)])
      ((e.proc name).alone (o i) after).2 := by
  have hm := h.not_mem_of_early hi hs
  refine ⟨?_, fun j r hj => ?_, fun j f u hj hn => ?_, quiet, ?_, ?_, fun j hj => ?_⟩
  · have hp : (errands.map (·.proc name))[i]? = some (e.proc name) := by
      rw [List.getElem?_map, he, Option.map_some]
    rw [List.map_append, List.map_append, List.map_singleton, List.map_singleton,
      inTurn_append hp, h.ran]
  · obtain hj | hj := List.mem_append.1 hj
    · obtain ⟨f, u, hu, ho⟩ := h.owes j r hj
      have hn : j ≠ i := fun hn => hm (hn ▸ List.mem_map_of_mem hj)
      exact ⟨f, u, (getElem?_set_iff hi).2 (.inr ⟨hn, hu⟩), others j f u r hn hu ho⟩
    · obtain ⟨rfl, rfl⟩ := Prod.mk.inj (List.mem_singleton.1 hj)
      exact ⟨e, t, (getElem?_set_iff hi).2 (.inl ⟨rfl, rfl⟩), own⟩
  · rw [List.map_append, List.mem_append, not_or] at hn
    obtain ⟨rfl, -⟩ | ⟨-, hj⟩ := (getElem?_set_iff hi).1 hj
    · exact absurd (List.mem_singleton_self _) hn.2
    · exact h.early j f u hj hn.1
  · rw [List.map_append]
    refine List.nodup_append.2 ⟨h.nodup, by simp, fun j hj k hk => ?_⟩
    obtain rfl : k = i := by simpa using hk
    exact fun hjk => hm (hjk ▸ hj)
  · rw [List.map_append, hl]
    refine List.pairwise_append.2 ⟨h.order.imp fun ha => ha.append _, by simp, fun j hj k hk => ?_⟩
    obtain rfl : k = i := by simpa using hk
    exact ahead_last (h.acted j hj) a x
  · rw [hl]
    rw [List.map_append] at hj
    obtain hj | hj := List.mem_append.1 hj
    · obtain ⟨f, hf, hw⟩ := h.acted j hj
      exact ⟨f, List.mem_append_left _ hf, hw⟩
    · obtain rfl : j = i := by simpa using hj
      exact ⟨_, List.mem_append_right _ (List.mem_singleton_self _), rfl⟩

theorem proceed (h : Settled name errands o before c vs ledger after)
    (hg : Guarded name c.store vs) {l : Nat} {a : Action}
    {next : a.Answer → Proc (Except Error Unit)} (hi : vs[i]? = some (e, .inside l (.act a next)))
    (hl : d.log = c.log ++ [⟨i, a, (Nodes.answer (o i) a c.store).1⟩])
    (hd : d.store = (Nodes.answer (o i) a c.store).2) :
    Settled name errands o before d
      (vs.set i (e, .inside l (next (Nodes.answer (o i) a c.store).1))) ledger after := by
  obtain ⟨ha, -⟩ := hg.careful i e _ hi
  have hb := Nodes.answer_bare (o := o i) ha.1 c.store
  refine ⟨h.ran, fun j r hj => ?_, fun j f u hj hm => ?_, fun hn => ?_, h.nodup,
    h.order.imp fun hj => hl ▸ hj.append _, fun j hj => ?_⟩
  · obtain ⟨f, u, hu, ho⟩ := h.owes j r hj
    by_cases hn : j = i
    · subst hn
      obtain ⟨rfl, rfl⟩ := Prod.mk.inj (Option.some.inj (hi.symm.trans hu))
      refine ⟨e, _, (getElem?_set_iff hi).2 (.inl ⟨rfl, rfl⟩), ?_, ?_⟩
      · have hr := ho.1
        rw [Proc.alone, hb] at hr
        rw [hd]
        exact hr
      · have hr := ha.2 (o j) c.store.bare ho.2
        rw [hb] at hr
        rw [hd]
        exact hr
    · refine ⟨f, u, (getElem?_set_iff hi).2 (.inr ⟨hn, hu⟩), ho.of_not_inside fun hs => ?_⟩
      cases u with
      | inside k p => exact hg.alone_of_hold hi rfl j f _ k hn hu rfl
      | _ => cases hs
  · obtain ⟨rfl, -⟩ | ⟨-, hj⟩ := (getElem?_set_iff hi).1 hj
    · exact absurd (h.early j e _ hi hm) id
    · exact h.early j f u hj hm
  · exact absurd trivial (hn i e _ ((getElem?_set_iff hi).2 (.inl ⟨rfl, rfl⟩)))
  · obtain ⟨f, hf, hw⟩ := h.acted j hj
    exact ⟨f, hl ▸ List.mem_append_left _ hf, hw⟩

theorem miss (h : Settled name errands o before c vs ledger after) (hg : Guarded name c.store vs)
    (hi : vs[i]? = some (.unregister, .asking)) (he : errands[i]? = some .unregister)
    {a : Action} {x : a.Answer} (hl : d.log = c.log ++ [⟨i, a, x⟩]) (hd : d.store = c.store)
    (hn : c.store.uuids.get? name = none) :
    ∃ r after', Settled name errands o before d
      (vs.set i (.unregister, .gone (.error (.nodeNotFound name))))
      (ledger ++ [(i, r)]) after' := by
  have ha : after.bare.uuids.get? name = none := by
    have hr := h.registered hg
    rw [hn] at hr
    exact Option.isSome_eq_false_iff.1 hr |> Option.isNone_iff_eq_none.1
  have hp := Errand.alone_proc name .unregister (o i) after
  rw [Errand.alone_leave_of_none ha] at hp
  refine ⟨_, _, h.commit hi he trivial hl hp.1.symm (fun j f u r _ _ ho => ?_) fun hq => ?_⟩
  · rw [hd, hp.2]
    exact ho
  · rw [hd, hp.2]
    refine h.quiet fun j f u hj hu => ?_
    by_cases hij : j = i
    · subst hij
      obtain ⟨rfl, rfl⟩ := Prod.mk.inj (Option.some.inj (hi.symm.trans hj))
      exact hu
    · exact hq j f u ((getElem?_set_iff hi).2 (.inr ⟨hij, hj⟩)) hu

theorem begin (h : Settled name errands o before c vs ledger after) (hg : Guarded name c.store vs)
    {l : Nat} {next : (e.opening name).Answer → Proc (Except Error Unit)}
    (hi : vs[i]? = some (e, .entered l)) (he : errands[i]? = some e)
    (hb : e.body name = .act (.nodes (e.opening name)) next)
    (hl : d.log = c.log ++ [⟨i, .nodes (e.opening name), (c.store.apply (e.opening name)).1⟩])
    (hd : d.store = (c.store.apply (e.opening name)).2) :
    ∃ r after', Settled name errands o before d
      (vs.set i (e, .inside l (next (c.store.apply (e.opening name)).1))) (ledger ++ [(i, r)])
        after' := by
  have nobody : ∀ (j : Nat) (f : Errand) (u : Spot), vs[j]? = some (f, u) → ¬ u.IsInside := by
    intro j f u hj hu
    by_cases hij : j = i
    · subst hij
      obtain ⟨rfl, rfl⟩ := Prod.mk.inj (Option.some.inj (hi.symm.trans hj))
      exact hu
    · cases u with
      | inside k p => exact hg.alone_of_hold hi rfl j f _ k hij hj rfl
      | _ => cases hu
  have hp := Errand.alone_proc name e (o i) after
  rw [h.quiet nobody, hb, Proc.alone] at hp
  have ho := Nodes.apply_bare (e.isBare_opening name) c.store
  change Nodes.answer (o i) (.nodes (e.opening name)) c.store.bare = _ at ho
  rw [ho] at hp
  refine ⟨_, _, h.commit hi he trivial hl ⟨?_, ?_⟩ (fun j f u r _ hj hr => ?_) fun hq => ?_⟩
  · rw [hd, hp.1, hp.2]
  · rw [hd]
    exact e.registered_opening name c.store
  · exact hr.of_not_inside (nobody j f u hj)
  · exact absurd trivial (hq i e _ ((getElem?_set_iff hi).2 (.inl ⟨rfl, rfl⟩)))

theorem turn (h : Settled name errands o before c vs ledger after) (hg : Guarded name c.store vs)
    (hi : vs[i]? = some (e, s)) (he : errands[i]? = some e) {a : Action} {x : a.Answer}
    (ht : Turn name (o i) e c.store s a x t d.store) (hl : d.log = c.log ++ [⟨i, a, x⟩]) :
    ∃ ledger' after', Settled name errands o before d (vs.set i (e, t)) ledger' after' := by
  generalize hd : d.store = m at ht
  cases ht with
  | miss hu hn =>
    subst hu
    obtain ⟨r, after', hs⟩ := h.miss hg hi he hl hd hn
    exact ⟨_, after', hs⟩
  | ask =>
    exact ⟨_, _, h.pass hi hl (congrArg Nodes.bare hd) id (fun _ ho => ho) nofun⟩
  | claim =>
    exact ⟨_, _, h.pass hi hl (hd ▸ Nodes.bare_apply (.claim name) rfl c.store) id
      (fun _ ho => ho) nofun⟩
  | @acquire l =>
    exact ⟨_, _, h.pass hi hl (hd ▸ Nodes.bare_apply (.acquire l) rfl c.store) id
      (fun _ ho => ho) nofun⟩
  | begin hb =>
    obtain ⟨r, after', hs⟩ := h.begin hg hi he hb hl hd
    exact ⟨_, after', hs⟩
  | work => exact ⟨_, _, h.proceed hg hi hl hd⟩
  | @release l r =>
    refine ⟨_, _, h.pass hi hl (hd ▸ Nodes.bare_apply (.release l) rfl c.store) (fun hs => hs.elim)
      (fun r' ho => ?_) fun _ => ?_⟩
    · have hr : r = r' := congrArg Prod.fst ho.1
      cases e <;> exact hr
    · obtain ⟨r', -, ho⟩ := h.owed hi id
      exact (congrArg Prod.snd ho.1).symm
  | retire =>
    exact ⟨_, _, h.pass hi hl (hd ▸ Nodes.bare_apply (.retire name) rfl c.store) id
      (fun _ ho => ho) nofun⟩
  | @disclaim l =>
    exact ⟨_, _, h.pass hi hl (hd ▸ Nodes.bare_apply (.disclaim l) rfl c.store) id
      (fun _ ho => ho) nofun⟩

end Settled

end StorageDriver
