import StorageDriver.Http.Link
import StorageDriver.Proofs.Connections

namespace StorageDriver.Http

abbrev Exchange : Type := Message × Option Response

structure Tapped (W : Type) where
  wire : W
  heard : List Exchange := []

variable {W : Type} [Transport W]

instance : Transport (Tapped W) where
  exchange m t :=
    let (a, w) := Transport.exchange m t.wire
    (a, { wire := w, heard := t.heard ++ [(m, a)] })

namespace Client

def isSendable (m : Message) : Bool := m.origin.isLegal && isLegalHeader m.authorization

theorem isLegalHeader_append (a b : String) :
    isLegalHeader (a ++ b) = (isLegalHeader a && isLegalHeader b) := by
  simp only [isLegalHeader, String.toList_append, List.all_append]

theorem legal_credentials (c : Center.Config) : isLegalHeader (credentials c) = true := by
  have basic : isLegalHeader "Basic " = true := by decide
  rw [credentials, isLegalHeader_append, basic, Bool.true_and, isLegalHeader,
    String.toList_ofList, List.all_eq_true]
  intro x hx
  have h := Base64.encode_printable _ x hx
  simp [h.1, h.2]

/-- The token that an answer to a login grants. -/
def granted (r : Response) : Option String :=
  if Status.isSuccess r.status then
    match bodyValue Login.codec r with
    | some l => if l.session = "" then none else some l.session
    | none => none
  else none

def signIn : Call (Client × W) Unit := fun (c, w) =>
  match (login c.config).run.run w with
  | (.ok token, w) => (.ok (), { c with token := token }, w)
  | (.error f, w) => (.error f, c, w)

theorem run_exchange (c : Center.Config) (m : Message) (w : W) :
    (exchange c m).run.run w =
      if isSendable m then
        match Transport.exchange m w with
        | (some r, w) => (.ok r, w)
        | (none, w) => (.error (.connection c.host
            s!"error sending request for url ({m.origin.url}{m.target.render})"), w)
      else (.error (.connection c.host "builder error"), w) := by
  unfold exchange isSendable
  cases m.origin.isLegal <;> cases isLegalHeader m.authorization
  · rfl
  · rfl
  · rfl
  · have hl : ((ExceptT.lift (Transport.exchange m) : Call W _).run.run w) =
        (.ok (Transport.exchange m w).1, (Transport.exchange m w).2) := rfl
    refine (Call.run_bind (ExceptT.lift (Transport.exchange m)) _ w).trans ?_
    rw [hl]
    cases Transport.exchange m w with
    | mk a w => cases a <;> rfl

theorem run_login (c : Center.Config) (w : W) :
    match (exchange c (loginMessage c)).run.run w with
    | (.ok r, w') => ∃ reason, (login c).run.run w =
        (match granted r with
          | some token => .ok token
          | none => .error (.connection c.host reason), w')
    | (.error f, w') => (login c).run.run w = (.error f, w') := by
  unfold login
  rw [Call.run_bind]
  cases (exchange c (loginMessage c)).run.run w with
  | mk o w' =>
    cases o with
    | error f => rfl
    | ok r =>
      simp only [granted]
      cases Status.isSuccess r.status with
      | false => exact ⟨_, rfl⟩
      | true =>
        simp only [Bool.not_true, Bool.false_eq_true, if_false, if_true]
        cases bodyValue Login.codec r with
        | none => exact ⟨_, rfl⟩
        | some l =>
          by_cases hs : l.session = "" <;> simp only [hs, if_true, if_false]
          · exact ⟨_, rfl⟩
          · exact ⟨"", rfl⟩

theorem run_signIn (c : Client) (w : W) :
    signIn.run.run (c, w) =
      match (login c.config).run.run w with
      | (.ok token, w) => (.ok (), { c with token := token }, w)
      | (.error f, w) => (.error f, c, w) := rfl

theorem run_send {α : Type} (e : Endpoint α) (c : Client) (w : W) :
    (send e).run.run (c, w) =
      match (exchange c.config (c.message e)).run.run w with
      | (.error f, w) => (.error f, c, w)
      | (.ok r, w) =>
        if r.status ≠ 401 then (read e r, c, w)
        else match signIn.run.run (c, w) with
          | (.error f, c, w) => (.error f, c, w)
          | (.ok (), c, w) =>
            match (exchange c.config (c.message e)).run.run w with
            | (o, w) => (o.bind (read e), c, w) := by
  show send e (c, w) = _
  unfold send
  dsimp only
  cases (exchange c.config (c.message e)).run.run w with
  | mk o w =>
    cases o with
    | error f => rfl
    | ok r =>
      dsimp only
      split
      · rfl
      · rw [run_signIn]
        cases (login c.config).run.run w with
        | mk o w =>
          cases o with
          | error f => rfl
          | ok token =>
            dsimp only
            generalize (exchange c.config _).run.run w = x
            obtain ⟨o, w⟩ := x
            cases o <;> rfl

inductive Sent (c : Center.Config) (m : Message) : List Exchange → Except Error Response → Prop
  | unsent (hm : isSendable m = false) (reason : String) :
    Sent c m [] (.error (.connection c.host reason))
  | lost (hm : isSendable m = true) (reason : String) :
    Sent c m [(m, none)] (.error (.connection c.host reason))
  | answered (hm : isSendable m = true) (r : Response) : Sent c m [(m, some r)] (.ok r)

theorem exchange_sent (c : Center.Config) (m : Message) (t : Tapped W) :
    ∃ heard, ((exchange c m).run.run t).2.heard = t.heard ++ heard ∧
      Sent c m heard ((exchange c m).run.run t).1 := by
  rw [run_exchange]
  cases hm : isSendable m with
  | false => exact ⟨[], (List.append_nil _).symm, .unsent hm _⟩
  | true =>
    simp only [if_true, Transport.exchange]
    cases ha : (Transport.exchange m t.wire).1 with
    | none => exact ⟨_, rfl, .lost hm _⟩
    | some r => exact ⟨_, rfl, .answered hm r⟩

/-- `c` logs in and is `c'` afterwards. -/
inductive Entered (c : Client) : List Exchange → Except Error Unit → Client → Prop
  | unsent (hl : (Origin.ofCenter c.config).isLegal = false) (reason : String) :
    Entered c [] (.error (.connection c.config.host reason)) c
  | failed (a : Option Response) (ha : a.bind granted = none) (reason : String) :
    Entered c [(loginMessage c.config, a)] (.error (.connection c.config.host reason)) c
  | entered (r : Response) (token : String) (hr : granted r = some token) :
    Entered c [(loginMessage c.config, some r)] (.ok ()) { c with token := token }

theorem signIn_entered (c : Client) (t : Tapped W) :
    ∃ heard, (signIn.run.run (c, t)).2.2.heard = t.heard ++ heard ∧
      Entered c heard (signIn.run.run (c, t)).1 (signIn.run.run (c, t)).2.1 := by
  obtain ⟨heard, hh, hs⟩ := exchange_sent c.config (loginMessage c.config) t
  have hl := run_login c.config t
  rw [run_signIn]
  cases hx : (exchange c.config (loginMessage c.config)).run.run t with
  | mk o t' =>
    rw [hx] at hl hh hs
    refine ⟨heard, ?_⟩
    cases hs with
    | unsent hm reason =>
      rw [hl]
      refine ⟨hh, .unsent ?_ reason⟩
      simpa [isSendable, loginMessage, legal_credentials] using hm
    | lost hm reason =>
      rw [hl]
      exact ⟨hh, .failed none rfl reason⟩
    | answered hm r =>
      obtain ⟨reason, hl⟩ := hl
      rw [hl]
      cases hg : granted r with
      | none => exact ⟨hh, .failed (some r) hg reason⟩
      | some token => exact ⟨hh, .entered r token hg⟩

/-- `c` sends a request and is `c'` afterwards. -/
inductive Served {α : Type} (c : Client) (e : Endpoint α) :
    List Exchange → Except Error α → Client → Prop
  | failed {heard : List Exchange} {f : Error} (hs : Sent c.config (c.message e) heard (.error f)) :
    Served c e heard (.error f) c
  | answered (hm : isSendable (c.message e) = true) (r : Response) (hr : r.status ≠ 401) :
    Served c e [(c.message e, some r)] (read e r) c
  | refused (hm : isSendable (c.message e) = true) (r : Response) (hr : r.status = 401)
    (a : Option Response) (ha : a.bind granted = none) (reason : String) :
    Served c e [(c.message e, some r), (loginMessage c.config, a)]
      (.error (.connection c.config.host reason)) c
  | renewed (hm : isSendable (c.message e) = true) (r : Response) (hr : r.status = 401)
    (l : Response) (token : String) (hl : granted l = some token)
    {heard : List Exchange} {o : Except Error Response}
    (hs : Sent c.config ({ c with token := token }.message e) heard o) :
    Served c e ((c.message e, some r) :: (loginMessage c.config, some l) :: heard)
      (o.bind (read e)) { c with token := token }

theorem send_served {α : Type} (e : Endpoint α) (c : Client) (t : Tapped W) :
    ∃ heard, ((send e).run.run (c, t)).2.2.heard = t.heard ++ heard ∧
      Served c e heard ((send e).run.run (c, t)).1 ((send e).run.run (c, t)).2.1 := by
  obtain ⟨first, hf, hs⟩ := exchange_sent c.config (c.message e) t
  rw [run_send]
  cases hx : (exchange c.config (c.message e)).run.run t with
  | mk o t₁ =>
    rw [hx] at hf hs
    cases hs with
    | unsent hm reason => exact ⟨_, hf, .failed (.unsent hm reason)⟩
    | lost hm reason => exact ⟨_, hf, .failed (.lost hm reason)⟩
    | answered hm r =>
      by_cases hr : r.status = 401
      · obtain ⟨second, hg, hl⟩ := signIn_entered c t₁
        simp only [hr, ne_eq, not_true_eq_false, if_false]
        cases hy : signIn.run.run (c, t₁) with
        | mk o s =>
          obtain ⟨c', t₂⟩ := s
          rw [hy] at hg hl
          dsimp only at hg hl
          have hh : t₂.heard = t.heard ++ ((c.message e, some r) :: second) := by
            rw [hg, hf, List.append_assoc]
            rfl
          cases hl with
          | unsent ho reason =>
            have hm : ((Origin.ofCenter c.config).isLegal && _) = true := hm
            rw [ho] at hm
            cases hm
          | failed a ha reason => exact ⟨_, hh, .refused hm r hr a ha reason⟩
          | entered l token ht =>
            let c' : Client := { c with token := token }
            obtain ⟨third, hk, hs⟩ := exchange_sent c.config (c'.message e) t₂
            refine ⟨_, ?_, .renewed hm r hr l token ht hs⟩
            show ((exchange c.config (c'.message e)).run.run t₂).2.heard = _
            rw [hk, hh, List.append_assoc]
            rfl
      · simp only [ne_eq, hr, not_false_eq_true, if_true]
        exact ⟨_, hf, .answered hm r hr⟩

/-- The state of a client when nobody listens. -/
def bare (s : Client × Tapped W) : Client × W := (s.1, s.2.wire)

theorem exchange_bare (c : Center.Config) (m : Message) (t : Tapped W) :
    (exchange c m).run.run t.wire =
      (((exchange c m).run.run t).1, ((exchange c m).run.run t).2.wire) := by
  rw [run_exchange, run_exchange]
  cases isSendable m with
  | false => rfl
  | true =>
    simp only [if_true, Transport.exchange]
    cases Transport.exchange m t.wire with
    | mk a w => cases a <;> rfl

theorem login_bare (c : Center.Config) (t : Tapped W) :
    (login c).run.run t.wire = (((login c).run.run t).1, ((login c).run.run t).2.wire) := by
  unfold login
  rw [Call.run_bind, Call.run_bind, exchange_bare]
  cases (exchange c (loginMessage c)).run.run t with
  | mk o t =>
    cases o with
    | error f => rfl
    | ok r =>
      dsimp only
      cases Status.isSuccess r.status with
      | false => rfl
      | true =>
        simp only [Bool.not_true, Bool.false_eq_true, if_false]
        cases bodyValue Login.codec r with
        | none => rfl
        | some l =>
          dsimp only
          split <;> rfl

theorem signIn_bare (s : Client × Tapped W) :
    signIn.run.run (bare s) = ((signIn.run.run s).1, bare (signIn.run.run s).2) := by
  obtain ⟨c, t⟩ := s
  rw [bare, run_signIn, run_signIn, login_bare]
  cases (login c.config).run.run t with
  | mk o t => cases o <;> rfl

theorem send_bare {α : Type} (e : Endpoint α) (s : Client × Tapped W) :
    (send e).run.run (bare s) = (((send e).run.run s).1, bare ((send e).run.run s).2) := by
  obtain ⟨c, t⟩ := s
  rw [bare, run_send, run_send, exchange_bare]
  cases (exchange c.config (c.message e)).run.run t with
  | mk o t =>
    cases o with
    | error f => rfl
    | ok r =>
      dsimp only
      split
      · rfl
      · have hb := signIn_bare (c, t)
        rw [bare] at hb
        rw [hb]
        obtain ⟨o, c', t⟩ := signIn.run.run (c, t)
        cases o with
        | error f => rfl
        | ok u =>
          dsimp only [bare]
          rw [exchange_bare]
          rfl

theorem Entered.isPlain {c c' : Client} {heard : List Exchange} {f : Error}
    (h : Entered c heard (.error f) c') : f.IsPlain := by
  cases h <;> exact ⟨rfl, nofun⟩

theorem isPlain_of_read {α : Type} {e : Endpoint α} {r : Response} {f : Error}
    (h : read e r = .error f) : f.IsPlain := by
  unfold read at h
  split at h
  · exact Except.error.inj h ▸ ⟨rfl, nofun⟩
  · split at h
    · cases h
    · exact Except.error.inj h ▸ ⟨rfl, nofun⟩

theorem Served.isPlain {α : Type} {c c' : Client} {e : Endpoint α} {heard : List Exchange}
    {o : Except Error α} (h : Served c e heard o c') {f : Error} (hf : o = .error f) :
    f.IsPlain := by
  cases h with
  | failed hs =>
    obtain rfl := Except.error.inj hf
    cases hs <;> exact ⟨rfl, nofun⟩
  | answered => exact isPlain_of_read hf
  | refused => exact Except.error.inj hf ▸ ⟨rfl, nofun⟩
  | renewed _ _ _ _ _ _ hs =>
    cases hs with
    | unsent => exact Except.error.inj hf ▸ ⟨rfl, nofun⟩
    | lost => exact Except.error.inj hf ▸ ⟨rfl, nofun⟩
    | answered => exact isPlain_of_read hf

end Client

namespace Link

open Client

theorem run_connect (c : Center.Config) (l : Link W) :
    (connect c).run.run l =
      match signIn.run.run ({ config := c }, l.wire) with
      | (.ok (), k, w) => (.ok { host := c.host, slot := l.clients.length },
          { clients := l.clients ++ [k], wire := w })
      | (.error f, _, w) => (.error f, { l with wire := w }) := by
  show connect c l = _
  rw [run_signIn]
  unfold connect
  cases (login c).run.run l.wire with
  | mk o w => cases o <;> rfl

/-- A plane reached over HTTP is not reached or says why it refuses. -/
theorem isPlain : Remote.IsPlain (Link W) where
  connect c l f hf := by
    let s : Client × Tapped W := ({ config := c }, { wire := l.wire })
    have hb : signIn.run.run (s.1, l.wire) = _ := signIn_bare s
    obtain ⟨heard, -, he⟩ := signIn_entered s.1 s.2
    replace hf : ((connect c).run.run l).1 = .error f := hf
    rw [run_connect, hb] at hf
    cases hx : (signIn.run.run s).1 with
    | ok u =>
      rw [hx] at hf
      cases hf
    | error f' =>
      rw [hx] at hf
      obtain rfl : f' = f := Except.error.inj hf
      exact Entered.isPlain (hx ▸ he)
  finish s q l f hf := by
    replace hf : (send s q l).1 = .error f := hf
    unfold send at hf
    cases hk : l.clients[s.slot]? with
    | none =>
      rw [hk] at hf
      exact Except.error.inj hf ▸ ⟨rfl, nofun⟩
    | some k =>
      let s : Client × Tapped W := (k, { wire := l.wire })
      have hb : (Client.send (.ofRequest q)).run.run (k, l.wire) = _ :=
        send_bare (.ofRequest q) s
      obtain ⟨heard, -, hs⟩ := send_served (.ofRequest q) s.1 s.2
      rw [hk] at hf
      dsimp only at hf
      rw [hb] at hf
      exact hs.isPlain hf

end Link

end StorageDriver.Http
