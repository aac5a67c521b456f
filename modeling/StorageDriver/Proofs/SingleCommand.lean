import StorageDriver.Proofs.Operations
import StorageDriver.Proofs.SessionRenewal

namespace StorageDriver

namespace Http

open Client

/-- It makes, changes or deletes a volume, or changes a machine. -/
def Message.isChange (m : Message) : Bool :=
  m.method = .put || m.method = .delete || m.method = .post && m.target = .ofText "volumes"

def Message.IsQuiet (m : Message) : Prop := m.method = .get ∨ ∃ c, m = loginMessage c

theorem Message.IsQuiet.isChange {m : Message} (h : m.IsQuiet) : m.isChange = false := by
  have volumes : Target.ofText "authentication" ≠ Target.ofText "volumes" := by decide
  obtain h | ⟨c, rfl⟩ := h
  · simp [Message.isChange, h]
  · simp [Message.isChange, loginMessage, volumes]

theorem isChange_command (c : Client) (k : Command) :
    (c.message (.ofCommand k)).isChange = true := by
  cases k <;> simp [Message.isChange, message, Endpoint.ofCommand]

theorem isQuiet_enquiry (c : Client) {q : Request} (hq : q.IsEnquiry) :
    (c.message (.ofRequest q)).IsQuiet := by
  cases q with
  | command k => cases hq
  | _ => exact .inl rfl

def isRefusal (a : Option Response) : Bool := a.any (·.status = 401)

/-- The answer names the task that was started. -/
def isAcceptance (a : Option Response) : Bool :=
  a.any fun r => Status.isSuccess r.status && (bodyValue started r).isSome

theorem isRefusal_of_isAcceptance {a : Option Response} (h : isAcceptance a = true) :
    isRefusal a = false := by
  obtain ⟨r, rfl, hr⟩ := (Option.any_eq_true _ _).1 h
  have hs := (Bool.and_eq_true_iff.1 hr).1
  simp only [Status.isSuccess, Bool.and_eq_true, decide_eq_true_eq] at hs
  simp only [isRefusal, Option.any_some, decide_eq_false_iff_not]
  omega

theorem isAcceptance_of_read {k : Command} {r : Response} {t : Task}
    (h : read (.ofCommand k) r = .ok t) : isAcceptance (some r) = true := by
  have reply : (Endpoint.ofCommand k).reply = started := by cases k <;> rfl
  unfold Client.read at h
  rw [reply] at h
  cases hs : Status.isSuccess r.status with
  | false =>
    rw [hs] at h
    cases h
  | true =>
    rw [hs] at h
    cases hb : bodyValue started r with
    | none =>
      rw [hb] at h
      cases h
    | some t' => simp [isAcceptance, hs, hb]

def Quiet (heard : List Exchange) : Prop := ∀ x ∈ heard, x.1.IsQuiet

/-- What is heard of an operation that gives one command at most. -/
structure SingleCommand (heard : List Exchange) : Prop where
  once : (heard.filter fun x => x.1.isChange && !isRefusal x.2).length ≤ 1
  /-- A command is repeated when its token was refused and a login granted another. -/
  again : ∀ l₁ x l₂ y l₃, heard = l₁ ++ x :: (l₂ ++ y :: l₃) → x.1.isChange = true →
    y.1.isChange = true → isRefusal x.2 = true ∧ ∃ c r token,
      l₂ = [(loginMessage c, some r)] ∧ granted r = some token ∧
        y.1 = { x.1 with authorization := token }
  accepted : ∀ l₁ x l₂, heard = l₁ ++ x :: l₂ → x.1.isChange = true → isAcceptance x.2 = true →
    Quiet l₂
  /-- Where a command is not accepted nothing follows, except that a login follows the first
  refusal, and the command again if it is repeated. -/
  declined : ∀ l₁ x l₂, heard = l₁ ++ x :: l₂ → x.1.isChange = true → isAcceptance x.2 = false →
    l₂ = [] ∨ isRefusal x.2 = true ∧ (∀ y ∈ l₁, y.1.isChange = false) ∧ ∃ c a l₃,
      l₂ = (loginMessage c, a) :: l₃ ∧ ∀ y ∈ l₃.head?, y.1.isChange = true

section

variable {before rest after : List Exchange} {x y : Exchange}

theorem Quiet.isChange (h : Quiet before) (hx : x ∈ before) : x.1.isChange = false :=
  (h x hx).isChange

theorem Quiet.exists_place (hb : Quiet before) {l₁ l₂ : List Exchange}
    (h : before ++ rest = l₁ ++ y :: l₂) (hy : y.1.isChange = true) :
    ∃ k, l₁ = before ++ k ∧ rest = k ++ y :: l₂ := by
  obtain ⟨k, hk, hr⟩ | ⟨k, hk, hr⟩ := List.append_eq_append_iff.1 h
  · exact ⟨k, hk, hr⟩
  · cases k with
    | nil => exact ⟨[], by simpa using hk.symm, hr.symm⟩
    | cons z k =>
      obtain rfl : y = z := (List.cons.inj hr).1
      have hn := hb.isChange (x := y) (by simp [hk])
      rw [hn] at hy
      cases hy

theorem Quiet.place_of_cons (ha : Quiet after) {l₁ l₂ : List Exchange}
    (h : x :: after = l₁ ++ y :: l₂) (hy : y.1.isChange = true) :
    l₁ = [] ∧ y = x ∧ l₂ = after := by
  cases l₁ with
  | nil =>
    obtain ⟨rfl, rfl⟩ := List.cons.inj h
    exact ⟨rfl, rfl, rfl⟩
  | cons z l₁ =>
    have hn := ha.isChange (x := y) (by simp [(List.cons.inj h).2])
    rw [hn] at hy
    cases hy

theorem Quiet.singleCommand (h : Quiet rest) : SingleCommand rest := by
  have none {l₁ l₂ : List Exchange} {x : Exchange} (he : rest = l₁ ++ x :: l₂)
      (hx : x.1.isChange = true) : False := by
    have hn := h.isChange (x := x) (by simp [he])
    rw [hn] at hx
    cases hx
  refine ⟨?_, fun _ _ _ _ _ he hx => (none he hx).elim, fun _ _ _ he hx => (none he hx).elim,
    fun _ _ _ he hx => (none he hx).elim⟩
  rw [List.filter_eq_nil_iff.2 fun x hx => by simp [h.isChange hx]]
  exact Nat.zero_le 1

namespace SingleCommand

theorem prepend (hb : Quiet before) (h : SingleCommand rest) :
    SingleCommand (before ++ rest) where
  once := by
    have hn : before.filter (fun x => x.1.isChange && !isRefusal x.2) = [] :=
      List.filter_eq_nil_iff.2 fun x hx => by simp [hb.isChange hx]
    rw [List.filter_append, hn]
    exact h.once
  again l₁ x l₂ y l₃ he hx hy := by
    obtain ⟨k, -, hr⟩ := hb.exists_place he hx
    exact h.again k x l₂ y l₃ hr hx hy
  accepted l₁ x l₂ he hx := by
    obtain ⟨k, -, hr⟩ := hb.exists_place he hx
    exact h.accepted k x l₂ hr hx
  declined l₁ x l₂ he hx hn := by
    obtain ⟨k, rfl, hr⟩ := hb.exists_place he hx
    obtain hl | ⟨hf, hk, hl⟩ := h.declined k x l₂ hr hx hn
    · exact .inl hl
    · refine .inr ⟨hf, fun y hy => ?_, hl⟩
      exact (List.mem_append.1 hy).elim hb.isChange (hk y)

theorem lone (ha : Quiet after) (h : isAcceptance x.2 = true ∨ after = [] ∨ isRefusal x.2 = true ∧
    ∃ c a, after = [(loginMessage c, a)]) : SingleCommand (x :: after) where
  once := by
    have hn : after.filter (fun x => x.1.isChange && !isRefusal x.2) = [] :=
      List.filter_eq_nil_iff.2 fun x hx => by simp [ha.isChange hx]
    rw [List.filter_cons, hn]
    split <;> simp
  again l₁ y l₂ z l₃ he hy hz := by
    obtain ⟨-, -, hl⟩ := ha.place_of_cons he hy
    have hn := ha.isChange (x := z) (by simp [← hl])
    rw [hn] at hz
    cases hz
  accepted l₁ y l₂ he hy _ := by
    obtain ⟨-, -, rfl⟩ := ha.place_of_cons he hy
    exact ha
  declined l₁ y l₂ he hy hn := by
    obtain ⟨rfl, rfl, rfl⟩ := ha.place_of_cons he hy
    obtain h | h | ⟨hf, c, a, rfl⟩ := h
    · rw [hn] at h
      cases h
    · exact .inl h
    · exact .inr ⟨hf, nofun, c, a, [], rfl, nofun⟩

theorem twice {c : Center.Config} {r : Response} {token : String} (hf : isRefusal x.2 = true)
    (hr : granted r = some token) (hy : y.1 = { x.1 with authorization := token })
    (hc : y.1.isChange = true) (ha : Quiet after) (h : isAcceptance y.2 = true ∨ after = []) :
    SingleCommand (x :: (loginMessage c, some r) :: y :: after) := by
  have login : Message.isChange (loginMessage c) = false :=
    Message.IsQuiet.isChange (.inr ⟨c, rfl⟩)
  have place {l₁ l₂ : List Exchange} {z : Exchange}
      (he : x :: (loginMessage c, some r) :: y :: after = l₁ ++ z :: l₂)
      (hz : z.1.isChange = true) :
      l₁ = [] ∧ z = x ∧ l₂ = (loginMessage c, some r) :: y :: after ∨ z = y ∧ l₂ = after := by
    match l₁ with
    | [] =>
      obtain ⟨rfl, rfl⟩ := List.cons.inj he
      exact .inl ⟨rfl, rfl, rfl⟩
    | [_] =>
      obtain ⟨rfl, -⟩ := List.cons.inj (List.cons.inj he).2
      rw [login] at hz
      cases hz
    | _ :: _ :: l₁ =>
      obtain ⟨-, h⟩ := ha.place_of_cons (List.cons.inj (List.cons.inj he).2).2 hz
      exact .inr h
  constructor
  · have hs := (lone (x := y) ha (h.imp_right .inl)).once
    simpa [List.filter_cons, hf, login] using hs
  · intro l₁ z l₂ u l₃ he hz hu
    obtain ⟨-, rfl, hl⟩ | ⟨-, hl⟩ := place he hz
    · refine ⟨hf, c, r, token, ?_⟩
      cases l₂ with
      | nil =>
        obtain ⟨rfl, -⟩ := List.cons.inj hl
        rw [login] at hu
        cases hu
      | cons v l₂ =>
        obtain ⟨rfl, ht⟩ := List.cons.inj hl
        have ht : y :: after = l₂ ++ u :: l₃ := ht.symm
        obtain ⟨rfl, rfl, -⟩ := ha.place_of_cons ht hu
        exact ⟨rfl, hr, hy⟩
    · have hn := ha.isChange (x := u) (by simp [← hl])
      rw [hn] at hu
      cases hu
  · intro l₁ z l₂ he hz hs
    obtain ⟨-, rfl, -⟩ | ⟨-, rfl⟩ := place he hz
    · rw [isRefusal_of_isAcceptance hs] at hf
      cases hf
    · exact ha
  · intro l₁ z l₂ he hz hs
    obtain ⟨rfl, rfl, rfl⟩ | ⟨rfl, rfl⟩ := place he hz
    · refine .inr ⟨hf, nofun, c, some r, y :: after, rfl, fun u hu => ?_⟩
      exact Option.some.inj hu ▸ hc
    · refine .inl (h.resolve_left ?_)
      simp [hs]

end SingleCommand

theorem Client.Served.singleCommand {c c' : Client} {k : Command} {heard : List Exchange}
    {o : Except Error Task} (h : Served c (.ofCommand k) heard o c') (ha : Quiet after)
    (he : ∀ e, o = .error e → after = []) : SingleCommand (heard ++ after) := by
  have told {r : Response} (hr : read (.ofCommand k) r = o) :
      isAcceptance (some r) = true ∨ after = [] := by
    cases o with
    | ok t => exact .inl (isAcceptance_of_read hr)
    | error e => exact .inr (he e rfl)
  cases h with
  | failed hs =>
    cases hs with
    | unsent => exact ha.singleCommand
    | lost => exact .lone ha (.inr (.inl (he _ rfl)))
  | answered hm r hr => exact .lone ha ((told rfl).imp_right .inl)
  | refused hm r hr a hn reason =>
    obtain rfl := he _ rfl
    refine .lone (fun x hx => ?_) (.inr (.inr ⟨by simp [isRefusal, hr], _, _, rfl⟩))
    exact .inr ⟨_, congrArg Prod.fst (List.mem_singleton.1 hx)⟩
  | renewed hm r hr l token hl hs =>
    have hf : isRefusal (some r) = true := by simp [isRefusal, hr]
    cases hs with
    | unsent =>
      obtain rfl := he _ rfl
      refine .lone (fun x hx => ?_) (.inr (.inr ⟨hf, _, _, rfl⟩))
      exact .inr ⟨_, congrArg Prod.fst (List.mem_singleton.1 hx)⟩
    | lost =>
      exact .twice hf hl rfl (isChange_command _ k) ha (.inr (he _ rfl))
    | answered _ r' => exact .twice hf hl rfl (isChange_command _ k) ha (told rfl)

variable {W : Type} {l l' l'' : Link (Tapped W)}

namespace Link

/-- Only reads and logins were heard since `l`. -/
def Quiet (l l' : Link (Tapped W)) : Prop :=
  ∃ heard, l'.wire.heard = l.wire.heard ++ heard ∧ Http.Quiet heard

theorem quiet_refl (l : Link (Tapped W)) : l.Quiet l := ⟨[], (List.append_nil _).symm, nofun⟩

theorem Quiet.trans (h : l.Quiet l') (h' : l'.Quiet l'') : l.Quiet l'' := by
  obtain ⟨heard, hh, hq⟩ := h
  obtain ⟨heard', hh', hq'⟩ := h'
  refine ⟨heard ++ heard', by rw [hh', hh, List.append_assoc], fun x hx => ?_⟩
  exact (List.mem_append.1 hx).elim (hq x) (hq' x)

variable [Transport W]

theorem quiet_connect (c : Center.Config) (l : Link (Tapped W)) :
    l.Quiet ((connect c).run.run l).2 := by
  obtain ⟨heard, hh, hs⟩ := signIn_entered { config := c } l.wire
  refine ⟨heard, ?_, fun x hx => ?_⟩
  · rw [run_connect]
    cases hx : signIn.run.run (({ config := c } : Client), l.wire) with
    | mk o t =>
      rw [hx] at hh
      cases o <;> exact hh
  · have hm := hs.enters.order.subset (List.mem_map_of_mem hx)
    exact .inr ⟨c, List.mem_singleton.1 hm⟩

theorem exists_served (s : Session) (q : Request) (l : Link (Tapped W)) :
    ((send s q).run.run l).2.wire = l.wire ∧ (∃ e, ((send s q).run.run l).1 = .error e) ∨
      ∃ c c' heard, ((send s q).run.run l).2.wire.heard = l.wire.heard ++ heard ∧
        Served c (.ofRequest q) heard ((send s q).run.run l).1 c' := by
  show (send s q l).2.wire = l.wire ∧ (∃ e, (send s q l).1 = .error e) ∨
    ∃ c c' heard, (send s q l).2.wire.heard = l.wire.heard ++ heard ∧
      Served c (.ofRequest q) heard (send s q l).1 c'
  unfold send
  cases l.clients[s.slot]? with
  | none => exact .inl ⟨rfl, _, rfl⟩
  | some c =>
    obtain ⟨heard, hh, hs⟩ := send_served (.ofRequest q) c l.wire
    exact .inr ⟨c, _, heard, hh, hs⟩

theorem quiet_send (s : Session) {q : Request} (hq : q.IsEnquiry) (l : Link (Tapped W)) :
    l.Quiet ((send s q).run.run l).2 := by
  obtain ⟨hw, -⟩ | ⟨c, c', heard, hh, hs⟩ := exists_served s q l
  · exact ⟨[], by rw [hw, List.append_nil], nofun⟩
  · refine ⟨heard, hh, fun x hx => ?_⟩
    have hm := hs.order.subset (List.mem_map_of_mem hx)
    simp only [List.mem_cons, List.not_mem_nil, or_false] at hm
    obtain hm | hm | hm := hm
    · exact hm ▸ isQuiet_enquiry c hq
    · exact .inr ⟨_, hm⟩
    · exact hm ▸ isQuiet_enquiry { c with token := c'.token } hq

theorem lasting_quiet (l : Link (Tapped W)) : Remote.Lasting (l.Quiet ·) where
  connect c _ h := h.trans (quiet_connect c _)
  start _ _ _ _ h := h
  finish s _ _ hq h := h.trans (quiet_send s hq _)

end Link

/-- A command is given over the wire, and nothing is said after it if it fails. -/
theorem singleCommand_of_ask [Transport W] {env : Setting} {s : Session} {k : Command}
    {u u' : World (Link (Tapped W))} {x : Except Error Task}
    (h : (Attempt.ask s (.command k)).Runs env u x u') (hl : l.Quiet u.net.planes)
    (hl' : u'.net.planes.Quiet l') (he : ∀ e, x = .error e → l' = u'.net.planes) :
    ∃ heard, l'.wire.heard = l.wire.heard ++ heard ∧ SingleCommand heard := by
  obtain ⟨before, hb, quiet_before⟩ := hl
  obtain ⟨after, ha, quiet_after⟩ := hl'
  have silent (e : Error) (hx : x = .error e) : after = [] := by
    rw [he e hx] at ha
    exact List.append_right_eq_self.1 ha.symm
  obtain ⟨rfl, hw⟩ : ((Link.send s (.command k)).run.run u.net.planes).1 = x ∧
      ((Link.send s (.command k)).run.run u.net.planes).2 = u'.net.planes := by
    cases h with
    | act hx hr =>
      cases hx
      cases hr
      exact ⟨rfl, rfl⟩
  rw [← hw] at ha
  obtain ⟨hn, e, hx⟩ | ⟨c, c', heard, hh, hs⟩ := Link.exists_served s (.command k) u.net.planes
  · refine ⟨before, ?_, quiet_before.singleCommand⟩
    rw [ha, hn, hb, silent e hx, List.append_nil]
  · refine ⟨before ++ (heard ++ after), ?_, .prepend quiet_before ?_⟩
    · rw [ha, hh, hb, List.append_assoc, List.append_assoc]
    · exact hs.singleCommand quiet_after silent

end

end Http

namespace Csi.Operation

open Http

/-- Whatever its requests are answered, an operation gives one command at most. It gives none once
anything has failed, and says no more when its command does. -/
theorem single_command {W : Type} [Transport W] (env : Setting) (v : Volumes) (o : Operation)
    {w w' : World (Link (Tapped W))} {r : Except Error o.Answer}
    (h : (o.attempt v).Runs env w r w') :
    (∃ heard, w'.net.planes.wire.heard = w.net.planes.wire.heard ++ heard ∧
      SingleCommand heard) ∧
    (o.attempt v).Heeds ∧
    ∃ x u, (o.prepare v).Runs env w x u ∧ w.net.planes.Quiet u.net.planes ∧
      ∀ e, x = .error e → r = .error e ∧ w' = u := by
  have quiet {α : Type} {p : Attempt α} {u u' : World (Link (Tapped W))} {x : Except Error α}
      (hp : p.Enquires) (hr : p.Runs env u x u') : u.net.planes.Quiet u'.net.planes :=
    (Link.lasting_quiet u.net.planes).runs hp.asks hr (Link.quiet_refl _)
  have heeds : (o.attempt v).Heeds := by
    rw [attempt_eq]
    exact Attempt.heeds_bind (o.enquires_prepare v).heeds fun x =>
      Attempt.heeds_bind (Attempt.heeds_ask _ _) fun t => (x.1.enquires_conclude v _ t).heeds
  rw [attempt_eq] at h
  obtain ⟨⟨p, s, k⟩, u, hp, hr⟩ | ⟨e, hp, rfl⟩ := h.of_bind
  · have hu := quiet (o.enquires_prepare v) hp
    refine ⟨?_, heeds, _, u, hp, hu, nofun⟩
    obtain ⟨t, u', ha, hc⟩ | ⟨e, ha, -⟩ := hr.of_bind
    · exact singleCommand_of_ask ha hu (quiet (p.enquires_conclude v s t) hc) nofun
    · exact singleCommand_of_ask ha hu (Link.quiet_refl _) fun _ _ => rfl
  · have hu := quiet (o.enquires_prepare v) hp
    refine ⟨?_, heeds, _, w', hp, hu, fun e' he => ⟨congrArg _ (Except.error.inj he), rfl⟩⟩
    obtain ⟨heard, hh, hq⟩ := hu
    exact ⟨heard, hh, hq.singleCommand⟩

def forgetful : Script where
  routes := [
    ("POST /authentication", [some { body := "\x7b\"sessonId\":\"t1\"\x7d" }]),
    ("DELETE /volumes/vol-1/?removeData=true",
      [some { status := 401 }, some { body := "\x7b\"taskId\":\"task-2\"\x7d" }]),
    ("GET /tasks/task-2", [some { body := "\x7b\"state\":\"FINISHED\"\x7d" }])]

def tapped : World (Link (Tapped Script)) where
  net := Network.register { planes := { wire := { wire := forgetful } } } Client.center

theorem single_command_forgetful :
    let x := ((delete "vol-1").attempt { host := Client.center.host }).execute {} tapped
    x.1 = .ok () ∧ SingleCommand x.2.net.planes.wire.heard ∧
      x.2.net.planes.wire.heard.length = 5 := by
  intro x
  have hx :=
    Attempt.runs_execute {} ((delete "vol-1").attempt { host := Client.center.host }) tapped
  obtain ⟨⟨heard, hh, hs⟩, -⟩ := single_command {} _ _ hx
  have h : x.2.net.planes.wire.heard = heard := hh
  have done : (match x.1 with | .ok _ => true | .error _ => false) = true := by decide +kernel
  refine ⟨?_, h ▸ hs, by decide +kernel⟩
  cases hr : x.1 with
  | ok u => rfl
  | error e =>
    rw [hr] at done
    cases done

end Csi.Operation

end StorageDriver
