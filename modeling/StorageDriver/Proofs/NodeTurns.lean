import StorageDriver.Proofs.NodeErrands

namespace StorageDriver

/-- How far an errand has come. Whoever is `inside` has begun what the lock is held for. -/
inductive Spot
  | asking
  | claiming
  | waiting (l : Nat)
  | entered (l : Nat)
  | inside (l : Nat) (p : Proc (Except Error Unit))
  | tidying (l : Nat) (r : Except Error Unit)
  | leaving (l : Nat) (r : Except Error Unit)
  | gone (r : Except Error Unit)

namespace Errand

def first : Errand → Spot
  | register _ => .claiming
  | unregister => .asking

def released (l : Nat) (r : Except Error Unit) : Errand → Spot
  | register _ => .leaving l r
  | unregister => .tidying l r

end Errand

namespace Spot

/-- What is still to be done. Only who unregisters asks first. -/
def proc (name : String) (e : Errand) : Spot → Proc (Except Error Unit)
  | asking => match e with
    | .register _ => .done (.ok ())
    | .unregister => e.proc name
  | claiming => e.claiming name
  | waiting l => e.waiting name l
  | entered l => e.inside name l (e.body name)
  | inside l p => e.inside name l p
  | tidying l r => .act (.nodes (.retire name)) fun _ => Errand.leaving l r
  | leaving l r => Errand.leaving l r
  | gone r => .done r

theorem proc_first (name : String) (e : Errand) : e.first.proc name e = e.proc name := by
  cases e with
  | register uuid => exact (Errand.proc_register uuid name).symm
  | unregister => rfl

theorem proc_released (name : String) (e : Errand) (l : Nat) (r : Except Error Unit) :
    (e.released l r).proc name e = e.tidying name l r := by
  cases e <;> rfl

end Spot

/-- All that one action of an errand can do, with the spot and the nodes after it. -/
inductive Turn (name : String) (o : (a : Action) → a.Answer) (e : Errand) (n : Nodes) :
    Spot → (a : Action) → a.Answer → Spot → Nodes → Prop
  | miss (he : e = .unregister) (h : n.uuids.get? name = none) :
    Turn name o e n .asking (.nodes (.uuid name)) none (.gone (.error (.nodeNotFound name))) n
  | ask {uuid} (he : e = .unregister) (h : n.uuids.get? name = some uuid) :
    Turn name o e n .asking (.nodes (.uuid name)) (some uuid) .claiming n
  | claim :
    Turn name o e n .claiming (.nodes (.claim name)) (n.apply (.claim name)).1
      (.waiting (n.apply (.claim name)).1) (n.apply (.claim name)).2
  | acquire {l} (h : (n.lock l).held = false) :
    Turn name o e n (.waiting l) (.nodes (.acquire l)) () (.entered l) (n.apply (.acquire l)).2
  | begin {l next} (h : e.body name = .act (.nodes (e.opening name)) next) :
    Turn name o e n (.entered l) (.nodes (e.opening name)) (n.apply (e.opening name)).1
      (.inside l (next (n.apply (e.opening name)).1)) (n.apply (e.opening name)).2
  | work {l a next} :
    Turn name o e n (.inside l (.act a next)) a (Nodes.answer o a n).1
      (.inside l (next (Nodes.answer o a n).1)) (Nodes.answer o a n).2
  | release {l r} :
    Turn name o e n (.inside l (.done r)) (.nodes (.release l)) () (e.released l r)
      (n.apply (.release l)).2
  | retire {l r} :
    Turn name o e n (.tidying l r) (.nodes (.retire name)) () (.leaving l r)
      (n.apply (.retire name)).2
  | disclaim {l r} :
    Turn name o e n (.leaving l r) (.nodes (.disclaim l)) () (.gone r) (n.apply (.disclaim l)).2

/-- Every action taken at a spot is a turn. -/
theorem exists_turn {name : String} {o : Nat → (a : Action) → a.Answer} {i : Nat} {e : Errand}
    {s : Spot} {n m : Nodes} {a : Action} {next : a.Answer → Proc (Except Error Unit)}
    {x : a.Answer} (h : s.proc name e = .act a next) (hs : Nodes.serve o i a n = some (x, m)) :
    ∃ t, next x = t.proc name e ∧ Turn name (o i) e n s a x t m := by
  obtain ⟨hb, rfl, rfl⟩ := Nodes.serve_eq_some hs
  cases s with
  | asking =>
    cases e with
    | register uuid => cases h
    | unregister =>
      obtain ⟨rfl, rfl⟩ := Proc.act.inj ((Errand.proc_unregister name).symm.trans h)
      show ∃ t, (if (n.uuids.get? name).isNone then _ else _) = t.proc name .unregister ∧
        Turn name (o i) .unregister n .asking (.nodes (.uuid name)) (n.uuids.get? name) t n
      cases hn : n.uuids.get? name with
      | none => exact ⟨.gone (.error (.nodeNotFound name)), rfl, .miss rfl hn⟩
      | some uuid => exact ⟨.claiming, rfl, .ask rfl hn⟩
  | claiming =>
    obtain ⟨rfl, rfl⟩ := Proc.act.inj h
    exact ⟨_, rfl, .claim⟩
  | waiting l =>
    obtain ⟨rfl, rfl⟩ := Proc.act.inj h
    exact ⟨.entered l, rfl, .acquire (by simpa [Nodes.blocks, Nodes.enabled] using hb)⟩
  | entered l =>
    obtain ⟨begin, hbody, -⟩ := e.exists_body name
    rw [Spot.proc, Errand.inside, hbody] at h
    obtain ⟨rfl, rfl⟩ := Proc.act.inj h
    exact ⟨_, rfl, .begin hbody⟩
  | inside l p =>
    cases p with
    | done r =>
      obtain ⟨rfl, rfl⟩ := Proc.act.inj h
      exact ⟨_, (Spot.proc_released name e l r).symm, .release⟩
    | act b more =>
      obtain ⟨rfl, rfl⟩ := Proc.act.inj h
      exact ⟨_, rfl, .work⟩
  | tidying l r =>
    obtain ⟨rfl, rfl⟩ := Proc.act.inj h
    exact ⟨_, rfl, .retire⟩
  | leaving l r =>
    obtain ⟨rfl, rfl⟩ := Proc.act.inj h
    exact ⟨_, rfl, .disclaim⟩
  | gone r => cases h

end StorageDriver
