import StorageDriver.Proofs.Crowd
import StorageDriver.Proofs.Procedures

namespace StorageDriver

/-- What a caller may do next, by what it has done and been answered so far. -/
structure Conduct (σ : Type) where
  after : σ → (a : Action) → a.Answer → σ
  may : σ → Action → Prop

section

variable {σ α β : Type} (k : Conduct σ)

/-- Whatever is answered, a procedure does what it may and ends as `post` says. -/
def Proc.Obeys (post : σ → α → Prop) : Proc α → σ → Prop
  | .done a, g => post g a
  | .act a next, g => k.may g a ∧ ∀ x, (next x).Obeys post (k.after g a x)

variable {k}

theorem Proc.Obeys.bind {mid : σ → α → Prop} {post : σ → β → Prop} {p : Proc α}
    {f : α → Proc β} {g : σ} (hp : p.Obeys k mid g)
    (hf : ∀ g a, mid g a → (f a).Obeys k post g) : (p.bind f).Obeys k post g := by
  induction p generalizing g with
  | done a => exact hf g a hp
  | act a next ih => exact ⟨hp.1, fun x => ih x (hp.2 x)⟩

theorem Proc.Obeys.imp {post post' : σ → α → Prop} {p : Proc α} {g : σ} (h : p.Obeys k post g)
    (hp : ∀ g a, post g a → post' g a) : p.Obeys k post' g := by
  induction p generalizing g with
  | done a => exact hp g a h
  | act a next ih => exact ⟨h.1, fun x => ih x (h.2 x)⟩

/-- Actions that may be taken and change nothing in `g` leave the caller there. -/
theorem Proc.Obeys.of_all {p : Proc α} {g : σ}
    (h : p.All fun a => k.may g a ∧ ∀ x, k.after g a x = g) :
    p.Obeys k (fun g' _ => g' = g) g := by
  induction p with
  | done a => rfl
  | act a next ih => exact ⟨h.1.1, fun x => (h.1.2 x).symm ▸ ih x (h.2 x)⟩

end

namespace Attempt

section

variable {σ α β : Type} (k : Conduct σ)

/-- Whatever is answered, an attempt does what it may, and if it succeeds it ends as `post` says. -/
def Obeys (post : σ → α → Prop) (p : Attempt α) (g : σ) : Prop :=
  p.run.Obeys k (fun g r => ∀ a, r = .ok a → post g a) g

variable {k} {post : σ → β → Prop} {g : σ}

theorem obeys_pure {b : β} (h : post g b) : (pure b : Attempt β).Obeys k post g := by
  intro b' hb
  exact Except.ok.inj hb ▸ h

theorem obeys_throw (e : Error) : (throw e : Attempt β).Obeys k post g := by
  intro b hb
  cases hb

theorem obeys_bind (mid : σ → α → Prop) {p : Attempt α} {f : α → Attempt β}
    (hp : p.Obeys k mid g) (hf : ∀ g a, mid g a → (f a).Obeys k post g) :
    (p >>= f).Obeys k post g := by
  unfold Obeys
  rw [run_bind]
  refine Proc.Obeys.bind hp fun g r hr => ?_
  cases r with
  | ok a => exact hf g a (hr a rfl)
  | error e =>
    intro b hb
    cases hb

theorem obeys_outcome_bind {mid : σ → Except Error α → Prop} {p : Attempt α}
    {f : Except Error α → Attempt β} (hp : p.run.Obeys k mid g)
    (hf : ∀ g r, mid g r → (f r).Obeys k post g) : (p.outcome >>= f).Obeys k post g := by
  unfold Obeys
  rw [run_outcome_bind]
  exact hp.bind hf

theorem obeys_nodes_bind {op : Nodes.Op} {f : op.Answer → Attempt β} (may : k.may g (.nodes op))
    (hf : ∀ x, (f x).Obeys k post (k.after g (.nodes op) x)) :
    (nodes op >>= f).Obeys k post g := by
  unfold Obeys
  rw [run_nodes_bind]
  exact ⟨may, hf⟩

end

end Attempt

/-- Where a caller stands after its part in `log`, when it began at `g`. -/
def Conduct.stage {σ : Type} (k : Conduct σ) (g : σ) (log : List Deed) (i : Nat) : σ :=
  log.foldl (fun g e => if e.who = i then k.after g e.action e.answer else g) g

namespace Conduct

variable {σ : Type} (k : Conduct σ) (g : σ) (e : Deed) (l₁ l₂ : List Deed) (i : Nat)

theorem stage_cons : k.stage g (e :: l₁) i =
    k.stage (if e.who = i then k.after g e.action e.answer else g) l₁ i :=
  rfl

theorem stage_append : k.stage g (l₁ ++ l₂) i = k.stage (k.stage g l₁ i) l₂ i := List.foldl_append

end Conduct

/-- Each deed is as `P` says of it and those before. -/
def Throughout (P : List Deed → Deed → Prop) (log : List Deed) : Prop :=
  ∀ l₁ e l₂, log = l₁ ++ e :: l₂ → P l₁ e

section

variable {P : List Deed → Deed → Prop} {log : List Deed} {e : Deed}

theorem throughout_nil : Throughout P [] := by
  intro l₁ e l₂ h
  simp at h

theorem Throughout.append (h : Throughout P log) (he : P log e) : Throughout P (log ++ [e]) := by
  intro l₁ d l₂ hd
  obtain rfl | ⟨l, f, rfl⟩ := l₂.eq_nil_or_concat
  · obtain ⟨rfl, hf⟩ := List.append_inj' hd rfl
    exact List.singleton_inj.1 hf ▸ he
  · have hd : log ++ [e] = (l₁ ++ d :: l) ++ [f] := by simpa using hd
    exact h l₁ d l (List.append_inj' hd rfl).1

end

theorem Crowd.obeys_follow {σ τ α : Type} {k : Conduct σ} {post : σ → α → Prop}
    {serve : Service τ} {c d : Crowd τ α} {i : Nat} {g : σ} {is : List Nat}
    (fresh : c.log = []) (hm : ∀ p, c.members[i]? = some p → p.Obeys k post g)
    (h : c.follow serve is = some d) :
    (∀ p, d.members[i]? = some p → p.Obeys k post (k.stage g d.log i)) ∧
      Throughout (fun l e => e.who = i → k.may (k.stage g l i) e.action) d.log := by
  refine follow_induction (P := fun u => (∀ p, u.members[i]? = some p →
      p.Obeys k post (k.stage g u.log i)) ∧
    Throughout (fun l e => e.who = i → k.may (k.stage g l i) e.action) u.log)
    ⟨by rwa [fresh], fresh ▸ throughout_nil⟩ (fun u v j hu hv => ?_) h
  obtain ⟨obeys, did⟩ := hu
  obtain ⟨a, next, x, s, ha, -, rfl⟩ := step_eq_some hv
  refine ⟨fun p hp => ?_, did.append fun hj => ?_⟩
  · rw [Conduct.stage_append]
    show p.Obeys k post (if j = i then k.after (k.stage g u.log i) a x else k.stage g u.log i)
    obtain ⟨rfl, rfl⟩ | ⟨hne, hp⟩ := (getElem?_set_iff ha).1 hp
    · rw [if_pos rfl]
      exact (obeys _ ha).2 x
    · rw [if_neg (Ne.symm hne)]
      exact obeys p hp
  · obtain rfl : j = i := hj
    exact (obeys _ ha).1

end StorageDriver
