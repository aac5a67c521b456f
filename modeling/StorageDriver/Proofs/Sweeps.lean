import StorageDriver.Fleet
import StorageDriver.Proofs.NodeLearning
import StorageDriver.Proofs.Overhearing

namespace StorageDriver

namespace Node

/-- How one comes to a session with `host`, where some were opened already. -/
inductive Comes (known : String → Prop) (o : Table Session) (host : String) :
    List Contact → Except Error Session → Table Session → Prop
  | unknown (h : ¬ known host) : Comes known o host [] (.error (.notRegistered host)) o
  | refused {c e} (h : o.get? host = none) (hc : c.host = host) :
    Comes known o host [.connected c (.error e)] (.error e) o
  | kept {s} (h : o.get? host = some s) : Comes known o host [] (.ok s) o
  | opened {c s} (h : o.get? host = none) (hc : c.host = host) :
    Comes known o host [.connected c (.ok s)] (.ok s) (o.put host s)

/-- What comes of renewing the machines of a table one by one: the contacts, the answer, and the
table that is left. -/
inductive Swept (known : String → Prop) : Table Session → Table VirtualMachine → List Contact →
    Except Error (List VirtualMachine) → Table VirtualMachine → Prop
  | done {o} : Swept known o [] [] (.ok []) []
  | unmet {o o' k m t es e} (h : Comes known o m.host es (.error e) o') :
    Swept known o ((k, m) :: t) es (.error e) ((k, m) :: t)
  | missed {o o' k m t es s e} (h : Comes known o m.host es (.ok s) o') :
    Swept known o ((k, m) :: t) (es ++ [.asked s (.machine m.id) (.error e)]) (.error e)
      ((k, m) :: t)
  | renewed {o o' k m t t' es fs s r} {doc : VmInfo} (h : Comes known o m.host es (.ok s) o')
    (more : Swept known o' t fs r t') :
    Swept known o ((k, m) :: t) (es ++ .asked s (.machine m.id) (.ok doc) :: fs)
      (r.map (m.renewed doc :: ·)) ((k, m.renewed doc) :: t')

/-- The sessions `o` are those that the handles have, and the centers are `known`. -/
structure Holds {R : Type} (known : String → Prop) (o : Table Session) (n : Network R) : Prop where
  keyed : ∀ host h, n.centers.get? host = some h → h.config.host = host
  known : ∀ host, (∃ h, n.centers.get? host = some h) ↔ known host
  session : ∀ host s, o.get? host = some s →
    ∃ h, n.centers.get? host = some h ∧ h.session = some s

section

variable {R : Type} {o : Table Session} {known : String → Prop}

theorem Holds.congr {n m : Network R} (h : Holds known o n) (hm : m.centers = n.centers) :
    Holds known o m where
  keyed := by rw [hm]; exact h.keyed
  known := by rw [hm]; exact h.known
  session := by rw [hm]; exact h.session

theorem Holds.opened {n m : Network R} (h : Holds known o n) {host : String} {hd : Center.Handle}
    (hh : n.centers.get? host = some hd) {s : Session}
    (hm : m.centers = n.centers.put host { hd with session := some s }) :
    Holds known (o.put host s) m where
  keyed k hk hg := by
    rw [hm, Table.get?_put] at hg
    split at hg
    · rename_i he
      exact Option.some.inj hg ▸ (h.keyed host hd hh).trans he
    · exact h.keyed k hk hg
  known k := by
    rw [← h.known, hm, Table.get?_put]
    split
    · rename_i he
      exact iff_of_true ⟨_, rfl⟩ ⟨hd, he ▸ hh⟩
    · exact Iff.rfl
  session k s' hg := by
    rw [Table.get?_put] at hg
    rw [hm, Table.get?_put]
    split at hg
    · rename_i he
      exact ⟨_, if_pos he, hg⟩
    · rename_i he
      obtain ⟨hk, hc, hs⟩ := h.session k s' hg
      exact ⟨hk, (if_neg he).trans hc, hs⟩

variable [Remote R] (env : Setting) {w : World (Overheard R)}

open Attempt

theorem comes_session (hn : Holds known o w.net) (host : String) :
    ∃ r es o' n, (session host (o.get? host).isNone).execute env w = (r, { w with net := n }) ∧
      Comes known o host es r o' ∧ n.planes.heard = w.net.planes.heard ++ es ∧
      Holds known o' n := by
  have hclient (w' : World (Overheard R)) : (Attempt.client host).execute env w' =
      (((Network.client host).run.run w'.net).1,
        { w' with net := ((Network.client host).run.run w'.net).2 }) := rfl
  unfold session
  cases ho : o.get? host with
  | some s =>
    obtain ⟨hd, hc, hs⟩ := hn.session host s ho
    have hr : (Network.client host).run.run w.net = (.ok s, w.net) := by
      rw [Network.run_client, hc]
      simp only [hs]
    refine ⟨.ok s, [], o, w.net, ?_, .kept ho, (List.append_nil _).symm, hn⟩
    show (Attempt.client host).execute env w = _
    rw [hclient, hr]
  | none =>
    have hconnect : (Attempt.connect host).execute env w =
        (((Network.connect host).run.run w.net).1,
          { w with net := ((Network.connect host).run.run w.net).2 }) := rfl
    show ∃ r es o' n, (Attempt.connect host >>= fun _ => Attempt.client host).execute env w = _ ∧ _
    rw [execute_bind, hconnect, Network.run_connect]
    cases hc : w.net.centers.get? host with
    | none =>
      refine ⟨_, [], o, w.net, rfl, .unknown fun hk => ?_, (List.append_nil _).symm, hn⟩
      obtain ⟨hd, hd'⟩ := (hn.known host).2 hk
      cases hc.symm.trans hd'
    | some hd =>
      obtain ⟨r, m, hd', heard, centers⟩ := w.net.dialed_overheard host hd
      have named := hn.keyed host hd hc
      simp only [hd']
      cases r with
      | error e => exact ⟨_, _, o, m, rfl, .refused ho named, heard, hn.congr centers⟩
      | ok s =>
        have hm : m.centers.get? host = some { hd with session := some s } := by
          rw [centers, Table.get?_put, if_pos rfl]
        have hr : (Network.client host).run.run m = (.ok s, m) := by
          rw [Network.run_client, hm]
        refine ⟨_, _, _, m, ?_, .opened ho named, heard, hn.opened hc centers⟩
        show (Attempt.client host).execute env { w with net := m } = _
        rw [hclient, hr]

inductive Renews (known : String → Prop) (o : Table Session) (m : VirtualMachine) :
    List Contact → Except Error VirtualMachine → Table Session → Prop
  | unmet {o' es e} (h : Comes known o m.host es (.error e) o') : Renews known o m es (.error e) o'
  | missed {o' es s e} (h : Comes known o m.host es (.ok s) o') :
    Renews known o m (es ++ [.asked s (.machine m.id) (.error e)]) (.error e) o'
  | renewed {o' es s} {doc : VmInfo} (h : Comes known o m.host es (.ok s) o') :
    Renews known o m (es ++ [.asked s (.machine m.id) (.ok doc)]) (.ok (m.renewed doc)) o'

theorem renews_renew (hn : Holds known o w.net) (m : VirtualMachine) :
    ∃ r es o' n, (m.renew (o.get? m.host).isNone).execute env w = (r, { w with net := n }) ∧
      Renews known o m es r o' ∧ n.planes.heard = w.net.planes.heard ++ es ∧ Holds known o' n := by
  obtain ⟨r, es, o', n, hr, hc, heard, hn'⟩ := comes_session env hn m.host
  unfold VirtualMachine.renew
  rw [execute_bind, hr]
  cases r with
  | error e => exact ⟨_, _, _, _, rfl, .unmet hc, heard, hn'⟩
  | ok s =>
    obtain ⟨x, n', hx, heard', centers⟩ := n.ask_overheard s (.machine m.id)
    have hask : (Attempt.ask s (.machine m.id)).execute env { w with net := n } =
        (x, { w with net := n' }) := by
      show (((Network.ask s (.machine m.id)).run.run n).1,
        { w with net := ((Network.ask s (.machine m.id)).run.run n).2 }) = _
      rw [hx]
    rw [heard, List.append_assoc] at heard'
    show ∃ r es o' n', ((Attempt.ask s (.machine m.id) >>= fun doc => pure (m.renewed doc)) :
      Attempt VirtualMachine).execute env { w with net := n } = _ ∧ _
    rw [execute_bind, hask]
    cases x with
    | error e => exact ⟨_, _, _, n', rfl, .missed hc, heard', hn'.congr centers⟩
    | ok doc => exact ⟨_, _, _, n', rfl, .renewed hc, heard', hn'.congr centers⟩

theorem Comes.met {host : String} {es : List Contact} {s : Session} {o' : Table Session}
    (h : Comes known o host es (.ok s) o') {met : List String}
    (hm : ∀ k, met.contains k = (o.get? k).isSome) (k : String) :
    (host :: met).contains k = (o'.get? k).isSome := by
  rw [List.contains_cons, hm]
  by_cases hk : host = k
  · subst hk
    rw [beq_self_eq_true, Bool.true_or]
    cases h with
    | kept h => rw [h, Option.isSome_some]
    | opened h hc => rw [Table.get?_put, if_pos rfl, Option.isSome_some]
  · rw [beq_eq_false_iff_ne.2 (Ne.symm hk), Bool.false_or]
    cases h with
    | kept h => rfl
    | opened h hc => rw [Table.get?_put, if_neg hk]

theorem swept_renewAll (met : List String) (front t : Table VirtualMachine)
    (hn : Holds known o w.net) (hm : ∀ k, met.contains k = (o.get? k).isSome)
    (distinct : ((front ++ t).map (·.1)).Nodup) (hw : w.nodes.machines = front ++ t) :
    ∃ r es t' n, (renewAll met t).execute env w =
        (r, { net := n, nodes := { w.nodes with machines := front ++ t' } }) ∧
      Swept known o t es r t' ∧ n.planes.heard = w.net.planes.heard ++ es := by
  induction t generalizing met front o w with
  | nil => exact ⟨_, [], [], w.net, by rw [← hw]; rfl, .done, (List.append_nil _).symm⟩
  | cons p t ih =>
    obtain ⟨k, m⟩ := p
    obtain ⟨r, es, o', n, hr, hc, heard, hn'⟩ := renews_renew env hn m
    have fresh : (!met.contains m.host) = (o.get? m.host).isNone := by
      rw [hm, Option.not_isSome]
    unfold renewAll
    rw [execute_bind, fresh, hr]
    cases hc with
    | unmet hc => exact ⟨_, _, _, n, by rw [← hw], .unmet hc, heard⟩
    | missed hc => exact ⟨_, _, _, n, by rw [← hw], .missed hc, heard⟩
    | @renewed _ es s doc hc =>
      have absent : k ∉ front.map (·.1) := by
        rw [List.map_append, List.nodup_append] at distinct
        exact fun hk => distinct.2.2 k hk k List.mem_cons_self rfl
      have stored : (w.nodes.apply (.refresh k (m.renewed doc))).2 =
          { w.nodes with machines := front ++ [(k, m.renewed doc)] ++ t } := by
        have has : w.nodes.machines.has k = true := by
          rw [Table.has, hw]
          exact List.any_eq_true.2
            ⟨(k, m), List.mem_append_right _ List.mem_cons_self, decide_eq_true rfl⟩
        simp only [Nodes.apply, has, if_true]
        rw [hw, Table.put_append_cons absent, List.append_assoc]
        rfl
      have keys : ((front ++ [(k, m.renewed doc)] ++ t).map (·.1)).Nodup := by
        simpa only [List.map_append, List.map_cons, List.map_nil, List.append_assoc,
          List.singleton_append] using distinct
      obtain ⟨r, fs, t', n', hr', hs, heard'⟩ := ih (m.host :: met) _
        (w := { net := n, nodes :=
          { w.nodes with machines := front ++ [(k, m.renewed doc)] ++ t } })
        hn' (hc.met hm) keys rfl
      refine ⟨_, es ++ .asked s (.machine m.id) (.ok doc) :: fs, _, n', ?_, .renewed hc hs, ?_⟩
      · show ((Attempt.nodes (.refresh k (m.renewed doc)) >>= fun _ =>
          renewAll (m.host :: met) t >>= fun ms => pure (m.renewed doc :: ms)) :
            Attempt (List VirtualMachine)).execute env { w with net := n } = _
        rw [execute_nodes_bind]
        show ((renewAll (m.host :: met) t >>= fun ms => pure (m.renewed doc :: ms)) :
          Attempt (List VirtualMachine)).execute env
            { net := n, nodes := (w.nodes.apply (.refresh k (m.renewed doc))).2 } = _
        have joined : front ++ (k, m.renewed doc) :: t' = front ++ [(k, m.renewed doc)] ++ t' :=
          List.append_cons ..
        rw [stored, execute_bind, hr', joined]
        cases r <;> rfl
      · rw [heard', heard]
        simp only [List.append_assoc, List.singleton_append]

end

section

variable {o o' : Table Session} {known : String → Prop} {host : String} {es : List Contact}
  {t t' : Table VirtualMachine}

theorem Comes.no_request {r : Except Error Session} (h : Comes known o host es r o') :
    ∀ y ∈ es, y.request? = none := by
  cases h with
  | unknown | kept => exact fun _ hy => nomatch hy
  | refused | opened => exact fun y hy => List.mem_singleton.1 hy ▸ rfl

theorem Comes.no_document {r : Except Error Session} (h : Comes known o host es r o') :
    es.filterMap Contact.document? = [] := by
  cases h <;> rfl

theorem Comes.no_failure {s : Session} (h : Comes known o host es (.ok s) o') :
    ∀ y ∈ es, y.failure? = none := by
  cases h with
  | kept => exact fun _ hy => nomatch hy
  | opened => exact fun y hy => List.mem_singleton.1 hy ▸ rfl

theorem Comes.hosts {r : Except Error Session} (h : Comes known o host es r o') :
    (es.filterMap Contact.host?).Nodup ∧ (∀ k ∈ es.filterMap Contact.host?, o.get? k = none) ∧
      ∀ s, r = .ok s → ∀ k, o'.get? k = none →
        k ∉ es.filterMap Contact.host? ∧ o.get? k = none := by
  cases h with
  | unknown | kept => exact ⟨List.nodup_nil, nofun, fun _ _ k hk => ⟨nofun, hk⟩⟩
  | refused h hc =>
    exact ⟨List.pairwise_singleton _ _, fun k hk => by rw [List.mem_singleton.1 hk, hc, h], nofun⟩
  | opened h hc =>
    refine ⟨List.pairwise_singleton _ _, fun k hk => by rw [List.mem_singleton.1 hk, hc, h],
      fun _ _ k hk => ?_⟩
    rw [Table.get?_put] at hk
    split at hk
    · cases hk
    · rename_i hne
      exact ⟨fun hm => hne ((List.mem_singleton.1 hm).trans hc).symm, hk⟩

theorem Comes.session {s : Session} (h : Comes known o host es (.ok s) o') :
    o'.get? host = some s ∧ ∀ k s', o'.get? k = some s' →
      o.get? k = some s' ∨ ∃ c, c.host = k ∧ .connected c (.ok s') ∈ es := by
  cases h with
  | kept h => exact ⟨h, fun _ _ hk => .inl hk⟩
  | @opened c _ h hc =>
    refine ⟨by rw [Table.get?_put, if_pos rfl], fun k s' hk => ?_⟩
    rw [Table.get?_put] at hk
    split at hk
    · rename_i he
      exact .inr ⟨c, hc.trans he, Option.some.inj hk ▸ List.mem_cons_self⟩
    · exact .inl hk

theorem Comes.failed {e : Error} (h : Comes known o host es (.error e) o') :
    (¬ known host ∧ e = .notRegistered host ∧ es = []) ∨
      ∃ c, c.host = host ∧ es = [.connected c (.error e)] := by
  cases h with
  | unknown h => exact .inl ⟨h, rfl, rfl⟩
  | refused h hc => exact .inr ⟨_, hc, rfl⟩

theorem Swept.hosts {r : Except Error (List VirtualMachine)} (h : Swept known o t es r t') :
    (es.filterMap Contact.host?).Nodup ∧ ∀ k ∈ es.filterMap Contact.host?, o.get? k = none := by
  induction h with
  | done => exact ⟨List.nodup_nil, nofun⟩
  | unmet hc => exact ⟨hc.hosts.1, hc.hosts.2.1⟩
  | missed hc =>
    rw [List.filterMap_append, show List.filterMap Contact.host? [_] = [] from rfl, List.append_nil]
    exact ⟨hc.hosts.1, hc.hosts.2.1⟩
  | renewed hc _ ih =>
    obtain ⟨nodup, new, later⟩ := hc.hosts
    rw [List.filterMap_append, List.filterMap_cons_none rfl]
    refine ⟨List.nodup_append.2 ⟨nodup, ih.1, fun k hk k' hk' he => ?_⟩, fun k hk => ?_⟩
    · exact (later _ rfl k' (ih.2 k' hk')).1 (he ▸ hk)
    · obtain hk | hk := List.mem_append.1 hk
      · exact new k hk
      · exact (later _ rfl k (ih.2 k hk)).2

theorem Swept.keys {r : Except Error (List VirtualMachine)} (h : Swept known o t es r t') :
    t'.map (·.1) = t.map (·.1) := by
  induction h with
  | done | unmet | missed => rfl
  | renewed _ _ ih => exact congrArg (_ :: ·) ih

theorem split_append {α : Type} {es fs before after : List α} {x y : α} (hy : y ∉ es)
    (h : es ++ x :: fs = before ++ y :: after) :
    (before = es ∧ y = x ∧ after = fs) ∨ ∃ bs, before = es ++ x :: bs ∧ fs = bs ++ y :: after := by
  obtain ⟨bs, rfl, hb⟩ | ⟨bs, rfl, hb⟩ := List.append_eq_append_iff.1 h
  · cases bs with
    | nil =>
      obtain ⟨rfl, rfl⟩ := List.cons.inj hb
      exact .inl ⟨List.append_nil _, rfl, rfl⟩
    | cons b bs =>
      obtain ⟨rfl, rfl⟩ := List.cons.inj hb
      exact .inr ⟨bs, rfl, rfl⟩
  · cases bs with
    | nil =>
      obtain ⟨rfl, rfl⟩ := List.cons.inj hb
      exact .inl ⟨(List.append_nil _).symm, rfl, rfl⟩
    | cons b bs =>
      obtain ⟨rfl, -⟩ := List.cons.inj hb
      exact absurd (List.mem_append_right _ List.mem_cons_self) hy

theorem Swept.fetches {r : Except Error (List VirtualMachine)} (h : Swept known o t es r t')
    {before after : List Contact} {s : Session} {q : Request} {x : Except Error q.Reply}
    (he : es = before ++ .asked s q x :: after) :
    ∃ p, t[(before.filterMap Contact.request?).length]? = some p ∧ q = .machine p.2.id ∧
      (o.get? p.2.host = some s ∨ ∃ c, c.host = p.2.host ∧ .connected c (.ok s) ∈ before) := by
  induction h generalizing before with
  | done => cases before <;> cases he
  | unmet hc =>
    have hy := hc.no_request (.asked s q x) (he ▸ List.mem_append_right _ List.mem_cons_self)
    cases hy
  | @missed _ _ k m _ _ _ _ hc =>
    have hy : Contact.asked s q x ∉ _ := fun hm => nomatch hc.no_request _ hm
    have none : List.filterMap Contact.request? _ = [] :=
      List.filterMap_eq_nil_iff.2 hc.no_request
    obtain ⟨rfl, he, -⟩ | ⟨bs, -, hb⟩ := split_append hy he
    · cases he
      exact ⟨(k, m), by rw [none]; rfl, rfl, hc.session.2 _ _ hc.session.1⟩
    · cases bs <;> cases hb
  | @renewed _ _ k m _ _ cs _ _ _ _ hc _ ih =>
    have hy : Contact.asked s q x ∉ cs := fun hm => nomatch hc.no_request _ hm
    have none : cs.filterMap Contact.request? = [] := List.filterMap_eq_nil_iff.2 hc.no_request
    obtain ⟨rfl, he, -⟩ | ⟨bs, rfl, hb⟩ := split_append hy he
    · cases he
      exact ⟨(k, m), by rw [none]; rfl, rfl, hc.session.2 _ _ hc.session.1⟩
    · obtain ⟨p, hp, hq, hs⟩ := ih hb
      refine ⟨p, ?_, hq, ?_⟩
      · rw [List.filterMap_append, none]
        exact hp
      · obtain hs | ⟨c, hh, hm⟩ := hs
        · exact (hc.session.2 _ _ hs).imp_right fun ⟨c, hh, hm⟩ =>
            ⟨c, hh, List.mem_append_left _ hm⟩
        · exact .inr ⟨c, hh, List.mem_append_right _ (List.mem_cons_of_mem _ hm)⟩

/-- After the contacts `es` the machine `m` cannot be renewed, and the last contact says why, unless
its center is not known. -/
inductive Halts (known : String → Prop) (m : VirtualMachine) : Error → List Contact → Prop
  | unknown {es : List Contact} (h : ¬ known m.host) (fine : ∀ y ∈ es, y.failure? = none) :
    Halts known m (.notRegistered m.host) es
  | refused {es : List Contact} {c e} (hc : c.host = m.host) (fine : ∀ y ∈ es, y.failure? = none) :
    Halts known m e (es ++ [.connected c (.error e)])
  | missed {es : List Contact} {s e} (fine : ∀ y ∈ es, y.failure? = none) :
    Halts known m e (es ++ [.asked s (.machine m.id) (.error e)])

theorem Halts.append {m : VirtualMachine} {e : Error} {fs : List Contact}
    (h : Halts known m e fs) (fine : ∀ y ∈ es, y.failure? = none) : Halts known m e (es ++ fs) := by
  have both {gs : List Contact} (hg : ∀ y ∈ gs, y.failure? = none) :
      ∀ y ∈ es ++ gs, y.failure? = none := fun y hy =>
    (List.mem_append.1 hy).elim (fine y) (hg y)
  cases h with
  | unknown h hf => exact .unknown h (both hf)
  | refused hc hf => exact List.append_assoc es .. ▸ .refused hc (both hf)
  | missed hf => exact List.append_assoc es .. ▸ .missed (both hf)

/-- The machines `seen` are renewed with the documents that were fetched, one each. The others are
left, and the first of them is why. -/
theorem Swept.ends {r : Except Error (List VirtualMachine)} (h : Swept known o t es r t') :
    ∃ seen rest, t = seen ++ rest ∧ (es.filterMap Contact.document?).length = seen.length ∧
      t' = List.zipWith (fun p doc => (p.1, p.2.renewed doc)) seen
        (es.filterMap Contact.document?) ++ rest ∧
      (∀ ms, r = .ok ms → rest = [] ∧ ms = t'.map (·.2) ∧ ∀ y ∈ es, y.failure? = none) ∧
      ∀ e, r = .error e → ∃ p more, rest = p :: more ∧ Halts known p.2 e es := by
  induction h with
  | done => exact ⟨[], [], rfl, rfl, rfl, fun ms hm =>
    ⟨rfl, (Except.ok.inj hm).symm, List.forall_mem_nil _⟩, nofun⟩
  | @unmet _ _ k m t es e hc =>
    refine ⟨[], (k, m) :: t, rfl, by rw [hc.no_document]; rfl, by rw [hc.no_document]; rfl, nofun,
      fun e' he => ⟨(k, m), t, rfl, ?_⟩⟩
    obtain rfl := Except.error.inj he
    obtain ⟨h, rfl, rfl⟩ | ⟨c, hh, rfl⟩ := hc.failed
    · exact .unknown h (List.forall_mem_nil _)
    · show Halts known m e ([] ++ [_])
      exact .refused hh (List.forall_mem_nil _)
  | @missed _ _ k m t es s e hc =>
    have none : (es ++ [Contact.asked s (.machine m.id) (.error e)]).filterMap Contact.document? =
        [] := by rw [List.filterMap_append, hc.no_document]; rfl
    refine ⟨[], (k, m) :: t, rfl, by rw [none]; rfl, by rw [none]; rfl, nofun,
      fun e' he => ⟨(k, m), t, rfl, ?_⟩⟩
    obtain rfl := Except.error.inj he
    exact .missed hc.no_failure
  | @renewed _ _ k m t t' es fs s r doc hc _ ih =>
    obtain ⟨seen, rest, rfl, length, rfl, ok, error⟩ := ih
    have one : (es ++ Contact.asked s (.machine m.id) (.ok doc) :: fs).filterMap
        Contact.document? = doc :: fs.filterMap Contact.document? := by
      rw [List.filterMap_append, hc.no_document]
      rfl
    have fine : ∀ y ∈ es ++ [Contact.asked s (.machine m.id) (.ok doc)], y.failure? = none := by
      intro y hy
      obtain hy | hy := List.mem_append.1 hy
      · exact hc.no_failure y hy
      · exact List.mem_singleton.1 hy ▸ rfl
    refine ⟨(k, m) :: seen, rest, rfl, by rw [one]; exact congrArg (· + 1) length,
      by rw [one]; rfl, fun ms hm => ?_, fun e he => ?_⟩
    · cases r with
      | error e => cases hm
      | ok vs =>
        obtain ⟨hr, hv, hf⟩ := ok vs rfl
        refine ⟨hr, ?_, fun y hy => ?_⟩
        · rw [← Except.ok.inj hm, List.map_cons, ← hv]
        · rw [List.append_cons] at hy
          exact (List.mem_append.1 hy).elim (fine y) (hf y)
    · cases r with
      | ok vs => cases he
      | error e' =>
        obtain rfl := Except.error.inj he
        obtain ⟨p, more, hr, hh⟩ := error e' rfl
        exact ⟨p, more, hr, (List.append_cons es ..).symm ▸ hh.append fine⟩

end

/-- What the cluster says of the UUID of a node, or nothing. -/
def reported (env : Setting) (name : String) : String := (env.clusterUuid name).toOption.getD ""

section

variable {R : Type} [Remote R] (env : Setting) {w : World R}

open Attempt

theorem execute_fetchUuid (name : String) : ∃ r, (fetchUuid name).execute env w = (r, w) ∧
    reported env name = r.toOption.getD "" := by
  have hc : (Attempt.clusterUuid name).execute env w = (env.clusterUuid name, w) := rfl
  unfold fetchUuid reported
  rw [execute_bind, hc]
  cases env.clusterUuid name with
  | error e => exact ⟨.error e, rfl, rfl⟩
  | ok u =>
    by_cases hu : u = ""
    · exact ⟨.error (.nodeNotFound name), by simp only [if_pos hu]; rfl, hu⟩
    · exact ⟨.ok u, by simp only [if_neg hu]; rfl, rfl⟩

theorem execute_fill {names : List String} (distinct : names.Nodup)
    (keys : (w.nodes.uuids.map (·.1)).Nodup)
    (blank : ∀ name ∈ names, w.nodes.uuids.get? name = some "") :
    (fill names).execute env w = (.ok (), { w with nodes := { w.nodes with
      uuids := w.nodes.uuids.map fun p =>
        (p.1, if p.1 ∈ names then reported env p.1 else p.2) } }) := by
  induction names generalizing w with
  | nil =>
    have same : (w.nodes.uuids.map fun p =>
        (p.1, if p.1 ∈ ([] : List String) then reported env p.1 else p.2)) = w.nodes.uuids :=
      (List.map_congr_left fun p _ => by rw [if_neg List.not_mem_nil]; rfl).trans (List.map_id _)
    rw [same]
    rfl
  | cons name names ih =>
    obtain ⟨absent, distinct⟩ := List.nodup_cons.1 distinct
    have hname := blank name List.mem_cons_self
    let w' : World R := { w with nodes := { w.nodes with
      uuids := w.nodes.uuids.put name (reported env name) } }
    have first : (fill (name :: names)).execute env w = (fill names).execute env w' := by
      obtain ⟨r, hr, told⟩ := execute_fetchUuid env (w := w) name
      rw [fill, execute_outcome_bind, hr]
      cases r with
      | ok u => simp only [w', told]; rfl
      | error e =>
        -- What cannot be had stays blank.
        have same : w' = w := by
          simp only [w', told]
          show { w with nodes := { w.nodes with uuids := w.nodes.uuids.put name "" } } = w
          rw [Table.put_of_get? hname]
        rw [same]
    have blank' : ∀ x ∈ names, w'.nodes.uuids.get? x = some "" := fun x hx => by
      have hne : name ≠ x := fun he => absent (he ▸ hx)
      exact (Table.get?_put ..).trans ((if_neg hne).trans (blank x (List.mem_cons_of_mem _ hx)))
    have hk : name ∈ w.nodes.uuids.map (·.1) := Table.mem_keys.2 (by rw [hname, Option.isSome_some])
    rw [first, ih (w := w') distinct (Table.nodup_put keys) blank']
    exact Prod.ext rfl (congrArg (fun uuids => ({ w with nodes := { w.nodes with uuids } } :
      World R)) (Table.map_put_cons keys hk absent (reported env)))

theorem execute_fill_blanks (keys : (w.nodes.uuids.map (·.1)).Nodup) :
    (fill ((w.nodes.uuids.filter (·.2 = "")).map (·.1))).execute env w =
      (.ok (), { w with nodes := { w.nodes with uuids := w.nodes.uuids.map fun p =>
        (p.1, if p.2 = "" then reported env p.1 else p.2) } }) := by
  have blank : ∀ name ∈ (w.nodes.uuids.filter (·.2 = "")).map (·.1),
      w.nodes.uuids.get? name = some "" := by
    intro name hn
    obtain ⟨p, hp, rfl⟩ := List.mem_map.1 hn
    obtain ⟨hp, hb⟩ := List.mem_filter.1 hp
    rw [Table.get?_of_mem keys hp, decide_eq_true_iff.1 hb]
  rw [execute_fill env (keys.sublist (List.filter_sublist.map _)) keys blank]
  have same : ∀ p ∈ w.nodes.uuids,
      (p.1, if p.1 ∈ (w.nodes.uuids.filter (·.2 = "")).map (·.1) then reported env p.1 else p.2) =
      (p.1, if p.2 = "" then reported env p.1 else p.2) := by
    intro p hp
    have hb : p.1 ∈ (w.nodes.uuids.filter (·.2 = "")).map (·.1) ↔ p.2 = "" := by
      refine ⟨fun h => ?_, fun h => ?_⟩
      · exact Option.some.inj ((Table.get?_of_mem keys hp).symm.trans (blank _ h))
      · exact List.mem_map.2 ⟨p, List.mem_filter.2 ⟨hp, decide_eq_true h⟩, rfl⟩
    simp only [hb]
  rw [List.map_congr_left same]

end

theorem direct_sweep : sweep.run.All Action.IsDirect :=
  all_sweep (fun _ => trivial) (fun _ => trivial) (fun _ _ => trivial) (fun _ => trivial)
    fun _ => trivial

/-- A sweep renews the machines one after another, connects each center before the first machine of
it is fetched, and ends with the first failure. -/
theorem sweep_heard {R : Type} [Remote R] {env : Setting} {w w' : World (Overheard R)}
    (keyed : ∀ host h, w.net.centers.get? host = some h → h.config.host = host)
    (machines : (w.nodes.machines.map (·.1)).Nodup) (uuids : (w.nodes.uuids.map (·.1)).Nodup)
    {r : Except Error (List VirtualMachine)} (h : sweep.execute env w = (r, w')) :
    sweep.execute env w.plain = (r, w'.plain) ∧
    w'.nodes = { w.nodes with
      uuids := w.nodes.uuids.map fun p => (p.1, if p.2 = "" then reported env p.1 else p.2)
      machines := w'.nodes.machines } ∧
    w'.nodes.machines.map (·.1) = w.nodes.machines.map (·.1) ∧
    ∃ es, w'.net.planes.heard = w.net.planes.heard ++ es ∧ (es.filterMap Contact.host?).Nodup ∧
      (∀ before after s q x, es = before ++ .asked s q x :: after →
        ∃ p, w.nodes.machines[(before.filterMap Contact.request?).length]? = some p ∧
          q = .machine p.2.id ∧ ∃ c, c.host = p.2.host ∧ .connected c (.ok s) ∈ before) ∧
      ∃ seen rest, w.nodes.machines = seen ++ rest ∧
        (es.filterMap Contact.document?).length = seen.length ∧
        w'.nodes.machines = List.zipWith (fun p doc => (p.1, p.2.renewed doc)) seen
          (es.filterMap Contact.document?) ++ rest ∧
        (∀ ms, r = .ok ms →
          rest = [] ∧ ms = w'.nodes.machines.map (·.2) ∧ ∀ y ∈ es, y.failure? = none) ∧
        ∀ e, r = .error e → ∃ p more, rest = p :: more ∧
          Halts (fun host => ∃ h, w.net.centers.get? host = some h) p.2 e es := by
  have filled := execute_fill_blanks env uuids
  generalize hu : (w.nodes.uuids.map fun p =>
    (p.1, if p.2 = "" then reported env p.1 else p.2)) = known at filled ⊢
  let v : World (Overheard R) := { w with nodes := { w.nodes with uuids := known } }
  have hn : Holds (fun host => ∃ h, w.net.centers.get? host = some h) [] v.net :=
    ⟨keyed, fun _ => Iff.rfl, nofun⟩
  obtain ⟨r', es, t, n, hr, hs, heard⟩ :=
    swept_renewAll env [] [] v.nodes.machines (w := v) hn (fun _ => rfl) machines rfl
  have run : sweep.execute env w = (r', { net := n, nodes := { v.nodes with machines := t } }) := by
    unfold sweep
    rw [Attempt.execute_nodes_bind]
    show ((fill ((w.nodes.uuids.filter (·.2 = "")).map (·.1)) >>= fun _ =>
      Attempt.nodes .machines >>= fun ms => renewAll [] ms) :
        Attempt (List VirtualMachine)).execute env w = _
    rw [Attempt.execute_bind, filled]
    exact hr
  have plain : sweep.execute env w.plain = (r, w'.plain) := by
    have same := Proc.plain_run direct_sweep env w
    show Proc.run env (ExceptT.run sweep) w.plain = _
    rw [← same]
    show ((sweep.execute env w).1, (sweep.execute env w).2.plain) = _
    rw [h]
  obtain ⟨rfl, rfl⟩ := Prod.mk.inj (h.symm.trans run)
  obtain ⟨seen, rest, split, length, left, ok, error⟩ := hs.ends
  refine ⟨plain, rfl, hs.keys, es, heard, hs.hosts.1, fun before after s q x he => ?_,
    seen, rest, split, length, left, ok, error⟩
  obtain ⟨p, hp, hq, hc | hc⟩ := hs.fetches he
  · cases hc
  · exact ⟨p, hp, hq, hc⟩

end Node

namespace Refusal

def machine (host id : String) : VirtualMachine :=
  .ofInfo ⟨"dc", "dc", host⟩ { id := id, name := id, uuid := id, state := "STOPPED" }

def started (id : String) : VmInfo := { id := id, name := id, uuid := id, state := "STARTED" }

def planes : List Plane := [
  { host := "vc", machines := [started "m", started "o"] },
  { host := "vd", machines := [started "n"], failures := { connect := true } }]

def world : World (Overheard Fleet) where
  net := {
    centers := planes.map fun p => (p.host, { config := p.config })
    planes := { planes := Fleet.ofPlanes planes } }
  nodes := {
    uuids := [("a", "m"), ("b", "")]
    machines := [("m", machine "vc" "m"), ("n", machine "vd" "n"), ("o", machine "vc" "o")] }

def env : Setting where
  source := some fun _ => .ok "n"

theorem sweep_heard_refused : ∃ r w', Node.sweep.execute env world = (r, w') ∧
    r = .error (.connection "vd" "connection refused") ∧
    w'.nodes.machines.map (·.2.info.state) = ["STARTED", "STOPPED", "STOPPED"] ∧
    ∃ es, w'.net.planes.heard = es ∧ (es.filterMap Contact.host?).Nodup ∧
      ∃ seen rest, world.nodes.machines = seen ++ rest ∧
        (es.filterMap Contact.document?).length = seen.length ∧ ∃ p more, rest = p :: more ∧
          Node.Halts (fun host => ∃ h, world.net.centers.get? host = some h) p.2
            (.connection "vd" "connection refused") es := by
  have keyed : ∀ host h, world.net.centers.get? host = some h → h.config.host = host := by
    intro host h hh
    obtain ⟨p, -, hp⟩ := List.mem_map.1 (Table.mem_of_get? hh)
    obtain ⟨rfl, rfl⟩ := Prod.mk.inj hp
    rfl
  have failed : (Node.sweep.execute env world).1 =
      .error (.connection "vd" "connection refused") := by rfl
  have left : (Node.sweep.execute env world).2.nodes.machines.map (·.2.info.state) =
      ["STARTED", "STOPPED", "STOPPED"] := by decide +kernel
  obtain ⟨-, -, -, es, heard, once, -, seen, rest, split, length, -, -, error⟩ :=
    Node.sweep_heard keyed (by decide) (by decide) (Prod.eta (Node.sweep.execute env world)).symm
  exact ⟨_, _, rfl, failed, left, es, heard, once, seen, rest, split, length, error _ failed⟩

end Refusal

end StorageDriver
