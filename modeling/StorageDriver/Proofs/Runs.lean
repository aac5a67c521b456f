import StorageDriver.Proofs.Enquiries

namespace StorageDriver

variable {R α β : Type} [Remote R]

inductive World.Performs (s : Setting) (w : World R) : (a : Action) → a.Answer → World R → Prop
  | act (a : Action) : Performs s w a (w.perform s a).1 (w.perform s a).2
  | search {q : Query} {ms : List (Nat × Search.Move)} {t : Search.State R}
      {es : List Search.Event} (hq : q.isEmpty = false)
      (hf : (Search.start q s.pool false w.net).follow ms = some (t, es)) (hd : t.phase = .done) :
    Performs s w (.search q) t.outcome { w with net := t.net }

theorem World.Performs.searched {s : Setting} {w u : World R} {q : Query}
    {x : Except Error VirtualMachine} (h : w.Performs s (.search q) x u) :
    q.isEmpty = true ∧ x = .error Query.unfit ∧ u = w ∨
      q.isEmpty = false ∧ ∃ ms t es, (Search.start q s.pool false w.net).follow ms = some (t, es) ∧
        x = t.outcome ∧ u = { w with net := t.net } := by
  have performed : w.perform s (.search q) =
      w.onNet (Network.search s.pool .endless q).run.run := rfl
  cases h with
  | act =>
    rw [performed, onNet]
    cases hq : q.isEmpty with
    | true =>
      rw [Search.run_search_of_isEmpty w.net s.pool .endless hq]
      exact .inl ⟨rfl, rfl, rfl⟩
    | false =>
      obtain ⟨ms, t, es, hf, hx⟩ := Search.exists_follow_search w.net s.pool .endless hq
      rw [hx]
      exact .inr ⟨rfl, ms, t, es, hf, rfl, rfl⟩
  | search hq hf hd => exact .inr ⟨hq, _, _, _, hf, rfl, rfl⟩

def Action.IsDirect : Action → Prop
  | search _ => False
  | _ => True

theorem World.Performs.direct {s : Setting} {w u : World R} {a : Action} {x : a.Answer}
    (h : w.Performs s a x u) (ha : a.IsDirect) : w.perform s a = (x, u) := by
  cases h with
  | act => rfl
  | search => cases ha

/-- What an action may answer if nobody gives up a search. -/
inductive World.Awaits (s : Setting) (w : World R) : (a : Action) → a.Answer → World R → Prop
  | direct {a : Action} (ha : a.IsDirect) : Awaits s w a (w.perform s a).1 (w.perform s a).2
  | unfit {q : Query} (hq : q.isEmpty = true) : Awaits s w (.search q) (.error Query.unfit) w
  | search {q : Query} {ms : List (Nat × Search.Move)} {t : Search.State R}
      {es : List Search.Event} (hq : q.isEmpty = false)
      (hf : (Search.start q s.pool false w.net).follow ms = some (t, es)) (hd : t.phase = .done)
      (ha : t.abandoned = false) : Awaits s w (.search q) t.outcome { w with net := t.net }

theorem World.Awaits.perform {s : Setting} {w u : World R} {a : Action} {x : a.Answer}
    (h : w.Awaits s a x u) (ha : a.IsDirect) : w.perform s a = (x, u) := by
  cases h with
  | direct => rfl
  | unfit | search => cases ha

/-- The runs of a procedure whose actions answer as `P` says. -/
inductive Proc.RunsBy (P : World R → (a : Action) → a.Answer → World R → Prop) :
    Proc α → World R → α → World R → Prop
  | done (a : α) (w : World R) : RunsBy P (.done a) w a w
  | act {a : Action} {next : a.Answer → Proc α} {w u v : World R} {x : a.Answer} {r : α}
      (hx : P w a x u) (hr : (next x).RunsBy P u r v) : RunsBy P (.act a next) w r v

abbrev Proc.Runs (s : Setting) : Proc α → World R → α → World R → Prop :=
  Proc.RunsBy (World.Performs s)

section

variable {P : World R → (a : Action) → a.Answer → World R → Prop} {w v : World R}

omit [Remote R]

theorem Proc.RunsBy.bind {p : Proc α} {f : α → Proc β} {a : α} {u : World R} {r : β}
    (hp : p.RunsBy P w a u) (hf : (f a).RunsBy P u r v) : (p.bind f).RunsBy P w r v := by
  induction hp with
  | done a w => exact hf
  | act hx _ ih => exact .act hx (ih hf)

theorem Proc.RunsBy.of_bind {p : Proc α} {f : α → Proc β} {r : β}
    (h : (p.bind f).RunsBy P w r v) : ∃ a u, p.RunsBy P w a u ∧ (f a).RunsBy P u r v := by
  induction p generalizing w with
  | done a => exact ⟨a, w, .done a w, h⟩
  | act a next ih =>
    cases h with
    | act hx hr =>
      obtain ⟨b, u, hp, hf⟩ := ih _ hr
      exact ⟨b, u, .act hx hp, hf⟩

end

variable {s : Setting} {w v : World R}

theorem Proc.runs_run (s : Setting) (p : Proc α) (w : World R) :
    p.Runs s w (p.run s w).1 (p.run s w).2 := by
  induction p generalizing w with
  | done a => exact .done a w
  | act a next ih => exact .act (.act a) (ih _ _)

/-- Without a search there is one run only. -/
theorem Proc.Runs.direct {p : Proc α} {r : α} (h : p.Runs s w r v) (hp : p.All Action.IsDirect) :
    p.run s w = (r, v) := by
  induction h with
  | done a w => rfl
  | @act a next w u v x r hx hr ih =>
    have hx := hx.direct hp.1
    show (next (w.perform s a).1).run s (w.perform s a).2 = (r, v)
    rw [hx]
    exact ih (hp.2 x)

/-- What every action keeps, whatever it answers, a run keeps. -/
theorem Proc.Runs.keeps {P : World R → Prop} {Q : Action → Prop} {p : Proc α} {r : α}
    (step : ∀ w a x u, Q a → w.Performs s a x u → P w → P u) (hr : p.Runs s w r v) (hp : p.All Q)
    (hw : P w) : P v := by
  induction hr with
  | done a w => exact hw
  | act hx hr ih => exact ih (hp.2 _) (step _ _ _ _ hp.1 hx hw)

theorem Remote.Lasting.performs {P : R → Prop} (h : Remote.Lasting P) {a : Action} {x : a.Answer}
    {u : World R} (ha : a.IsEnquiry) (hx : w.Performs s a x u) (hw : P w.net.planes) :
    P u.net.planes := by
  cases hx with
  | act => exact h.perform s ha hw
  | search hq hf hd => exact h.follow (s := Search.start _ s.pool false _) hw hf

theorem Remote.Lasting.runs {P : R → Prop} (h : Remote.Lasting P) {p : Proc α} {r : α}
    (hp : p.All Action.IsEnquiry) (hr : p.Runs s w r v) (hw : P w.net.planes) :
    P v.net.planes :=
  hr.keeps (P := fun w => P w.net.planes) (fun _ _ _ _ ha hx hw => h.performs ha hx hw) hp hw

namespace Attempt

def Runs (s : Setting) (p : Attempt α) : World R → Except Error α → World R → Prop := p.run.Runs s

theorem runs_execute (s : Setting) (p : Attempt α) (w : World R) :
    p.Runs s w (p.execute s w).1 (p.execute s w).2 :=
  Proc.runs_run s p.run w

theorem runs_of_execute {p : Attempt α} {r : Except Error α} (h : p.execute s w = (r, v)) :
    p.Runs s w r v := by
  have hr := runs_execute s p w
  rwa [h] at hr

theorem Runs.direct {p : Attempt α} {r : Except Error α} (h : p.Runs s w r v)
    (hp : p.run.All Action.IsDirect) : p.execute s w = (r, v) :=
  Proc.Runs.direct h hp

theorem Runs.bind {p : Attempt α} {f : α → Attempt β} {a : α} {u : World R} {r : Except Error β}
    (hp : p.Runs s w (.ok a) u) (hf : (f a).Runs s u r v) : (p >>= f).Runs s w r v := by
  unfold Runs
  rw [run_bind]
  exact Proc.RunsBy.bind hp hf

theorem Runs.bind_error {p : Attempt α} {e : Error} (hp : p.Runs s w (.error e) v)
    (f : α → Attempt β) : (p >>= f).Runs s w (.error e) v := by
  unfold Runs
  rw [run_bind]
  exact Proc.RunsBy.bind hp (.done _ _)

theorem Runs.of_bind {p : Attempt α} {f : α → Attempt β} {r : Except Error β}
    (h : (p >>= f).Runs s w r v) :
    (∃ a u, p.Runs s w (.ok a) u ∧ (f a).Runs s u r v) ∨
      ∃ e, p.Runs s w (.error e) v ∧ r = .error e := by
  unfold Runs at h
  rw [run_bind] at h
  obtain ⟨x, u, hp, hf⟩ := Proc.RunsBy.of_bind h
  cases x with
  | ok a => exact .inl ⟨a, u, hp, hf⟩
  | error e =>
    cases hf
    exact .inr ⟨e, hp, rfl⟩

theorem Runs.ok_of_bind {p : Attempt α} {f : α → Attempt β} {b : β}
    (h : (p >>= f).Runs s w (.ok b) v) : ∃ a u, p.Runs s w (.ok a) u ∧ (f a).Runs s u (.ok b) v := by
  obtain h | ⟨e, -, he⟩ := h.of_bind
  · exact h
  · cases he

theorem Runs.of_nodes_bind {op : Nodes.Op} {f : op.Answer → Attempt β} {r : Except Error β}
    (h : (nodes op >>= f).Runs s w r v) :
    (f (w.nodes.apply op).1).Runs s { w with nodes := (w.nodes.apply op).2 } r v := by
  cases h with
  | act hx hr =>
    obtain ⟨rfl, rfl⟩ := Prod.mk.inj (hx.direct trivial)
    exact hr

theorem of_execute_bind {p : Attempt α} {f : α → Attempt β} {r : Except Error β}
    (h : (p >>= f).execute s w = (r, v)) :
    (∃ a u, p.execute s w = (.ok a, u) ∧ (f a).execute s u = (r, v)) ∨
      ∃ e, p.execute s w = (.error e, v) ∧ r = .error e := by
  rw [execute_bind] at h
  cases hp : p.execute s w with
  | mk x u =>
    rw [hp] at h
    cases x with
    | ok a => exact .inl ⟨a, u, rfl, h⟩
    | error e =>
      obtain ⟨rfl, rfl⟩ := Prod.mk.inj h
      exact .inr ⟨e, rfl, rfl⟩

theorem ok_of_execute_bind {p : Attempt α} {f : α → Attempt β} {b : β}
    (h : (p >>= f).execute s w = (.ok b, v)) :
    ∃ a u, p.execute s w = (.ok a, u) ∧ (f a).execute s u = (.ok b, v) := by
  obtain h | ⟨e, -, he⟩ := of_execute_bind h
  · exact h
  · cases he

end Attempt

end StorageDriver
