import StorageDriver.Proofs.NodeLedger

namespace StorageDriver

def gather (name : String) (errands : List Errand) (n : Nodes) :
    Crowd Nodes (Except Error Unit) where
  store := n
  members := errands.map (·.proc name)

def Nodes.IsIdle (name : String) (n : Nodes) : Prop :=
  ∀ l, n.locks.get? name = some l → n.made[l]? = some {}

variable {name : String} {errands : List Errand} {o : Nat → (a : Action) → a.Answer} {n : Nodes}
  {c : Crowd Nodes (Except Error Unit)} {vs : List (Errand × Spot)}

theorem at_first {j : Nat} {e : Errand} {s : Spot}
    (h : (errands.map fun e => (e, e.first))[j]? = some (e, s)) : s = e.first := by
  rw [List.getElem?_map] at h
  obtain ⟨e', -, he⟩ := Option.map_eq_some_iff.1 h
  obtain ⟨rfl, rfl⟩ := Prod.mk.inj he
  rfl

theorem staged_gather (name : String) (errands : List Errand) (n : Nodes) :
    Staged name errands (gather name errands n) (errands.map fun e => (e, e.first)) where
  members := by
    rw [List.map_map]
    exact List.map_congr_left fun e _ => (Spot.proc_first name e).symm
  errands := by
    rw [List.map_map]
    exact List.map_id errands
  claimed j := by
    rw [List.getElem?_map]
    cases errands[j]? with
    | none => rfl
    | some e => cases e <;> rfl
  held j := by
    rw [List.getElem?_map]
    cases errands[j]? with
    | none => rfl
    | some e => cases e <;> rfl

theorem guarded_gather (idle : n.IsIdle name) (errands : List Errand) :
    Guarded name n (errands.map fun e => (e, e.first)) := by
  have claim : ∀ e : Errand, e.first.claim? = none := fun e => by cases e <;> rfl
  have hold : ∀ e : Errand, e.first.hold? = none := fun e => by cases e <;> rfl
  refine ⟨fun j e s hj => ?_, fun j e s l hj hl => ?_, fun j e s l hj hl => ?_,
    fun i j d e s t k l hi hj hk hl => ?_, fun l hl => ?_⟩
  · rw [at_first hj]
    cases e <;> trivial
  · rw [at_first hj, claim] at hl
    cases hl
  · rw [at_first hj] at hl
    cases (claim e).symm.trans (Spot.claim_of_bound hl)
  · rw [at_first hi, hold] at hk
    cases hk
  · obtain ⟨hm, hk⟩ := List.getElem?_eq_some_iff.1 (idle l hl)
    have hlock : n.lock l = {} := by
      rw [Nodes.lock, List.getD_eq_getElem?_getD, idle l hl, Option.getD_some]
    refine ⟨hm, ?_, ?_⟩
    · rw [hlock]
      refine (List.countP_eq_zero.2 fun v hv => ?_).symm
      obtain ⟨e, -, rfl⟩ := List.mem_map.1 hv
      simp [claim]
    · rw [hlock]
      refine iff_of_false Bool.false_ne_true ?_
      rintro ⟨j, e, s, hj, hs⟩
      rw [at_first hj, hold] at hs
      cases hs

theorem settled_gather (name : String) (errands : List Errand)
    (o : Nat → (a : Action) → a.Answer) (n : Nodes) :
    Settled name errands o n (gather name errands n) (errands.map fun e => (e, e.first)) [] n where
  ran := rfl
  owes _ _ hj := nomatch hj
  early j e s hj _ := by
    rw [at_first hj]
    cases e <;> trivial
  quiet _ := rfl
  nodup := .nil
  order := .nil
  acted _ hj := nomatch hj

theorem exists_follow (idle : n.IsIdle name) {is : List Nat}
    (h : (gather name errands n).follow (Nodes.serve o) is = some c) :
    ∃ vs ledger after, Staged name errands c vs ∧ Guarded name c.store vs ∧
      Settled name errands o n c vs ledger after := by
  refine Crowd.follow_induction (P := fun c => ∃ vs ledger after, Staged name errands c vs ∧
    Guarded name c.store vs ∧ Settled name errands o n c vs ledger after) ?_ ?_ h
  · exact ⟨_, _, _, staged_gather name errands n, guarded_gather idle errands,
      settled_gather name errands o n⟩
  · rintro c d i ⟨vs, ledger, after, hs, hg, ht⟩ hd
    obtain ⟨e, s, a, x, t, hi, hturn, hl, hs'⟩ := hs.turn hg hd
    have he : errands[i]? = some e := by
      rw [← hs.errands, List.getElem?_map, hi, Option.map_some]
    obtain ⟨ledger', after', ht'⟩ := ht.turn hg hi he hturn hl
    exact ⟨_, ledger', after', hs', hg.turn hi hturn, ht'⟩

theorem gone_of_done {name : String} {e : Errand} {s : Spot} (hs : s.IsCareful name e)
    {r : Except Error Unit} (h : s.proc name e = .done r) : s = .gone r := by
  cases s with
  | gone r' => exact congrArg Spot.gone (Proc.done.inj h)
  | asking =>
    obtain rfl : e = .unregister := hs
    exact nomatch (Errand.proc_unregister name).symm.trans h
  | entered l =>
    obtain ⟨next, hb, -⟩ := e.exists_body name
    rw [Spot.proc, hb] at h
    cases h
  | inside l p => cases p <;> cases h
  | _ => cases h

def HaveGone (vs : List (Errand × Spot)) : Prop :=
  ∀ (j : Nat) (e : Errand) (s : Spot), vs[j]? = some (e, s) → ∃ r, s = .gone r

section

variable {before after : Nodes} {ledger : List (Nat × Except Error Unit)}

theorem Guarded.isIdle (h : Guarded name n vs)
    (gone : HaveGone vs) :
    n.IsIdle name := by
  intro l hl
  have hf := h.fits l hl
  have hc : (n.lock l).claims = 0 := by
    rw [hf.claims]
    refine List.countP_eq_zero.2 fun v hv => ?_
    obtain ⟨j, hj⟩ := List.mem_iff_getElem?.1 hv
    obtain ⟨r, hr⟩ := gone j v.1 v.2 hj
    simp [hr, Spot.claim?]
  have hh : (n.lock l).held = false := by
    refine Bool.eq_false_iff.2 fun hh => ?_
    obtain ⟨j, e, s, hj, hs⟩ := hf.held.1 hh
    obtain ⟨r, rfl⟩ := gone j e s hj
    cases hs
  have hm : n.made[l]? = some (n.lock l) := by
    rw [Nodes.lock, List.getD_eq_getElem?_getD, List.getElem?_eq_getElem hf.made, Option.getD_some]
  rw [hm]
  exact congrArg some (congr (congrArg Nodes.Lock.mk hc) hh)

theorem Settled.perm (h : Settled name errands o before c vs ledger after)
    (gone : HaveGone vs) :
    (ledger.map (·.1)).Perm (List.range vs.length) := by
  refine (List.perm_ext_iff_of_nodup h.nodup List.nodup_range).2 fun j => ?_
  rw [List.mem_range]
  constructor
  · intro hj
    obtain ⟨⟨j, r⟩, hr, rfl⟩ := List.mem_map.1 hj
    obtain ⟨e, s, hs, -⟩ := h.owes j r hr
    exact (List.getElem?_eq_some_iff.1 hs).1
  · intro hj
    obtain ⟨r, hr⟩ := gone j vs[j].1 vs[j].2 (List.getElem?_eq_getElem hj)
    obtain ⟨r', hm, -⟩ := h.owed (List.getElem?_eq_getElem hj) (hr ▸ id)
    exact List.mem_map_of_mem hm

theorem Settled.results (h : Settled name errands o before c vs ledger after)
    (hs : Staged name errands c vs)
    (gone : HaveGone vs) :
    (ledger.map (·.1)).map (c.members[·]?) = (ledger.map (·.2)).map (some ∘ .done) := by
  rw [List.map_map, List.map_map]
  refine List.map_congr_left fun v hv => ?_
  obtain ⟨e, s, hj, ho⟩ := h.owes v.1 v.2 hv
  obtain ⟨r, rfl⟩ := gone v.1 e s hj
  obtain rfl : r = v.2 := ho
  show c.members[v.1]? = some (.done v.2)
  rw [hs.members, List.getElem?_map, hj]
  rfl

theorem Settled.bare_eq (h : Settled name errands o before c vs ledger after)
    (gone : HaveGone vs) :
    after.bare = c.store.bare := by
  refine h.quiet fun j e s hj hs => ?_
  obtain ⟨r, rfl⟩ := gone j e s hj
  exact hs

end

/-- Register and unregister one name as often as one likes, all at once and in any order: never do
two hold a lock of the name, a lock goes out of the table only when nobody else claims it, and in
the end everything is as if they had come one after another, nobody before one that had ended
earlier. -/
theorem errands_in_turn (idle : n.IsIdle name) {is : List Nat}
    (h : (gather name errands n).follow (Nodes.serve o) is = some c) :
    (∀ i j k l, lockHeld c.log i = some k → lockHeld c.log j = some l → i = j) ∧
    (∀ i d l, c.step (Nodes.serve o) i = some d → c.store.locks.get? name = some l →
      d.store.locks.get? name ≠ some l → ∀ j, j ≠ i → lockClaimed c.log j ≠ some l) ∧
    ((∀ p ∈ c.members, ∃ r, p = .done r) → c.store.IsIdle name ∧
      ∃ order : List Nat, order.Perm (List.range errands.length) ∧
        order.Pairwise (fun i j => ¬ Precedes c.log j i) ∧
        order.map (c.members[·]?) =
          (inTurn (errands.map (·.proc name)) o order n).1.map (some ∘ .done) ∧
        (inTurn (errands.map (·.proc name)) o order n).2.uuids = c.store.uuids ∧
        (inTurn (errands.map (·.proc name)) o order n).2.machines = c.store.machines) := by
  obtain ⟨vs, ledger, after, hs, hg, ht⟩ := exists_follow idle h
  refine ⟨fun i j k l hi hj => ?_, fun i d l hd hn hm j hj hl => ?_, fun hdone => ?_⟩
  · rw [hs.held] at hi hj
    obtain ⟨⟨e, s⟩, hi, hk⟩ := Option.bind_eq_some_iff.1 hi
    obtain ⟨⟨f, u⟩, hj, hl⟩ := Option.bind_eq_some_iff.1 hj
    exact hg.alone i j e f s u k l hi hj hk hl
  · obtain ⟨e, s, a, x, t, hi, hturn, -, -⟩ := hs.turn hg hd
    rw [hs.claimed] at hl
    obtain ⟨⟨f, u⟩, hu, hl⟩ := Option.bind_eq_some_iff.1 hl
    exact hg.unclaimed hi hturn hn hm hj hu hl
  · have gone : HaveGone vs := by
      intro j e s hj
      obtain ⟨r, hr⟩ := hdone (s.proc name e) (by
        rw [hs.members]
        exact List.mem_map_of_mem (List.mem_of_getElem? hj))
      exact ⟨r, gone_of_done (hg.careful j e s hj) hr⟩
    have hlen : vs.length = errands.length := by rw [← hs.errands, List.length_map]
    have hbare := ht.bare_eq gone
    refine ⟨hg.isIdle gone, ledger.map (·.1), hlen ▸ ht.perm gone,
      ht.order.imp fun ha => ha.not_precedes, ?_, ?_, ?_⟩
    · rw [ht.ran]
      exact ht.results hs gone
    · rw [ht.ran]
      show after.bare.uuids = c.store.bare.uuids
      rw [hbare]
    · rw [ht.ran]
      show after.bare.machines = c.store.bare.machines
      rw [hbare]

def refuse : (a : Action) → a.Answer
  | .center host => .error (.notRegistered host)
  | .connect host => .error (.notRegistered host)
  | .client host => .error (.notRegistered host)
  | .ask _ _ => .error .cancelled
  | .sleep _ => ()
  | .search q => .error q.missed
  | .clusterUuid node => .error (.nodeNotFound node)
  | .nodes op => (Nodes.apply op {}).1

/-- The one who unregisters claims the lock while the one who registers holds it. -/
theorem errands_in_turn_pair :
    ∃ is c, (gather "n" [.register "u", .unregister] {}).follow (Nodes.serve fun _ => refuse) is =
      some c ∧ (∀ p ∈ c.members, ∃ r, p = .done r) ∧ c.store.IsIdle "n" := by
  obtain ⟨c, hc, hm⟩ : ∃ c, (gather "n" [.register "u", .unregister] {}).follow
      (Nodes.serve fun _ => refuse) [0, 0, 0, 1, 1, 0, 0, 0, 1, 1, 1, 1, 1, 1] = some c ∧
        c.members = [.done (.error (.vmNotFound "n" "u")), .done (.ok ())] :=
    ⟨_, rfl, rfl⟩
  have hd : ∀ p ∈ c.members, ∃ r, p = .done r := by
    intro p hp
    rw [hm] at hp
    simp only [List.mem_cons, List.not_mem_nil, or_false] at hp
    obtain rfl | rfl := hp
    · exact ⟨_, rfl⟩
    · exact ⟨_, rfl⟩
  have idle : Nodes.IsIdle "n" {} := by
    intro l hl
    cases hl
  exact ⟨_, c, hc, hd, ((errands_in_turn idle hc).2.2 hd).1⟩

end StorageDriver
