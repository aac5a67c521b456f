import StorageDriver.Http.Script
import StorageDriver.Proofs.Wiretap

namespace StorageDriver.Http.Client

variable {W : Type} [Transport W]

theorem message_ne_login (c : Client) (cfg : Center.Config) (q : Request) :
    c.message (.ofRequest q) ≠ loginMessage cfg := by
  have volumes : Target.ofText "volumes" ≠ Target.ofText "authentication" := by decide
  intro h
  have method := congrArg Message.method h
  cases q with
  | command k =>
    cases k with
    | createVolume order =>
      have target := congrArg Message.target h
      simp only [message, Endpoint.ofRequest, Endpoint.ofCommand, loginMessage] at target
      exact volumes target
    | _ => cases method
  | _ => cases method

/-- The token after an exchange. Only a login that grants one changes it. -/
def note (c : Center.Config) (token : String) (x : Exchange) : String :=
  if x.1 = loginMessage c then (x.2.bind granted).getD token else token

/-- The token that the last login granted, or `token` if none did. -/
def latest (c : Center.Config) (token : String) (heard : List Exchange) : String :=
  heard.foldl (note c) token

namespace Served

section

variable {α : Type} {c c' : Client} {e : Endpoint α} {heard : List Exchange} {o : Except Error α}

theorem order (h : Served c e heard o c') :
    heard.map (·.1) <+: [c.message e, loginMessage c.config,
      { c.message e with authorization := c'.token }] := by
  cases h with
  | failed hs => cases hs <;> simp
  | answered => simp
  | refused => simp
  | renewed _ _ _ _ _ _ hs => cases hs <;> simp [message]

theorem silent (h : Served c e heard o c')
    (hh : heard = [] ∨ heard.length = 2 ∨ ∃ m, heard.getLast? = some (m, none)) :
    ∃ reason, o = .error (.connection c.config.host reason) := by
  cases h with
  | failed hs => cases hs <;> exact ⟨_, rfl⟩
  | answered => simp at hh
  | refused _ _ _ _ _ reason => exact ⟨reason, rfl⟩
  | renewed _ _ _ _ _ _ hs =>
    cases hs with
    | unsent _ reason => exact ⟨reason, rfl⟩
    | lost _ reason => exact ⟨reason, rfl⟩
    | answered => simp at hh

theorem answer (h : Served c e heard o c') {m : Message} {r : Response}
    (hh : heard.getLast? = some (m, some r)) (hm : m ≠ loginMessage c.config)
    (hr : heard.length = 1 → r.status ≠ 401) : o = read e r := by
  cases h with
  | failed hs => cases hs <;> cases hh
  | answered => cases hh; rfl
  | refused => cases hh; exact absurd rfl hm
  | renewed _ _ _ _ _ _ hs =>
    cases hs with
    | unsent => cases hh; exact absurd rfl hm
    | lost => cases hh
    | answered => cases hh; rfl

theorem twice (h : Served c e heard o c') {m : Message} {r : Response}
    (hh : heard[2]? = some (m, some r)) (hr : r.status = 401) :
    o = .error (.rest 401 (bodyText r)) := by
  cases h with
  | failed hs => cases hs <;> cases hh
  | answered => cases hh
  | refused => cases hh
  | renewed _ _ _ _ _ _ hs =>
    cases hs with
    | unsent => cases hh
    | lost => cases hh
    | answered =>
      cases hh
      simp [Except.bind, read, hr, Status.isSuccess]

end

variable {c c' : Client} {q : Request} {heard : List Exchange} {o : Except Error q.Reply}

theorem token (h : Served c (.ofRequest q) heard o c') :
    c' = { c with token := latest c.config c.token heard } := by
  have hr := fun k => message_ne_login k c.config q
  cases h with
  | failed hs => cases hs <;> simp [latest, note, hr]
  | answered => simp [latest, note, hr]
  | refused _ _ _ a ha => simp [latest, note, hr, ha]
  | renewed _ _ _ l token hl hs => cases hs <;> simp [latest, note, hr, hl]

theorem login_iff (h : Served c (.ofRequest q) heard o c') :
    loginMessage c.config ∈ heard.map (·.1) ↔
      ∃ r, heard.head? = some (c.message (.ofRequest q), some r) ∧ r.status = 401 := by
  have hr := fun k => (message_ne_login k c.config q).symm
  cases h with
  | failed hs => cases hs <;> simp [hr]
  | answered _ r h401 => simp [hr, h401]
  | refused _ r h401 => simp [h401]
  | renewed _ r h401 => simp [h401]

theorem again_iff (h : Served c (.ofRequest q) heard o c') :
    heard.length = 3 ↔ ∃ r token, (loginMessage c.config, some r) ∈ heard ∧
      granted r = some token ∧ isLegalHeader token = true := by
  have hr := fun k => (message_ne_login k c.config q).symm
  cases h with
  | failed hs => cases hs <;> simp [hr]
  | answered => simp [hr]
  | refused _ _ _ a ha =>
    refine ⟨nofun, fun ⟨r, token, hm, ht, _⟩ => ?_⟩
    obtain rfl : some r = a := by simpa [hr] using hm
    cases ha.symm.trans ht
  | renewed hm _ _ l token hl hs =>
    have legal : isSendable (({ c with token := token } : Client).message (.ofRequest q)) =
        isLegalHeader token := by
      have ho : (Origin.ofCenter c.config).isLegal = true := (Bool.and_eq_true_iff.1 hm).1
      exact (congrArg (· && isLegalHeader token) ho).trans (Bool.true_and _)
    cases hs with
    | unsent hs => simp [hr, hl, ← legal, hs]
    | lost hs => simp [hr, hl, ← legal, hs]
    | answered hs => simp [hr, hl, ← legal, hs]

theorem unchanged (h : Served c (.ofRequest q) heard o c') {a : Option Response}
    (hm : (loginMessage c.config, a) ∈ heard) (ha : a.bind granted = none) :
    c' = c ∧ heard.length = 2 := by
  have hr := fun k => (message_ne_login k c.config q).symm
  cases h with
  | failed hs => cases hs <;> simp [hr] at hm
  | answered => simp [hr] at hm
  | refused => exact ⟨rfl, rfl⟩
  | renewed _ _ _ l token hl hs =>
    obtain rfl : a = some l := by cases hs <;> simpa [hr] using hm
    cases ha.symm.trans hl

end Served

/-- What a request does and what it answers. -/
structure Renews (c : Client) (q : Request) (heard : List Exchange) (o : Except Error q.Reply)
    (c' : Client) : Prop where
  /-- The request, one login and the request anew. -/
  order : heard.map (·.1) <+: [c.message (.ofRequest q), loginMessage c.config,
    { c.message (.ofRequest q) with authorization := c'.token }]
  token : c' = { c with token := latest c.config c.token heard }
  login_iff : loginMessage c.config ∈ heard.map (·.1) ↔
    ∃ r, heard.head? = some (c.message (.ofRequest q), some r) ∧ r.status = 401
  again_iff : heard.length = 3 ↔ ∃ r token, (loginMessage c.config, some r) ∈ heard ∧
    granted r = some token ∧ isLegalHeader token = true
  answer : ∀ m r, heard.getLast? = some (m, some r) → m ≠ loginMessage c.config →
    (heard.length = 1 → r.status ≠ 401) → o = read (.ofRequest q) r
  twice : ∀ m r, heard[2]? = some (m, some r) → r.status = 401 →
    o = .error (.rest 401 (bodyText r))
  refused : ∀ a, (loginMessage c.config, a) ∈ heard → a.bind granted = none →
    c' = c ∧ ∃ reason, o = .error (.connection c.config.host reason)
  silent : heard = [] ∨ heard.length = 2 ∨ (∃ m, heard.getLast? = some (m, none)) →
    ∃ reason, o = .error (.connection c.config.host reason)

theorem Served.renews {c c' : Client} {q : Request} {heard : List Exchange}
    {o : Except Error q.Reply} (h : Served c (.ofRequest q) heard o c') :
    Renews c q heard o c' where
  order := h.order
  token := h.token
  login_iff := h.login_iff
  again_iff := h.again_iff
  answer _ _ := h.answer
  twice _ _ := h.twice
  refused a hm ha := by
    obtain ⟨hc, hl⟩ := h.unchanged hm ha
    exact ⟨hc, h.silent (.inr (.inl hl))⟩
  silent := h.silent

/-- Each message is a login or a request with the token granted last before it, which is `token` at
first. -/
def Shown (c : Center.Config) : String → List Exchange → Prop
  | _, [] => True
  | token, x :: xs =>
    (x.1 = loginMessage c ∨ ∃ q : Request, x.1 = message ⟨c, token⟩ (.ofRequest q)) ∧
      Shown c (note c token x) xs

theorem Shown.append {c : Center.Config} {token : String} {xs ys : List Exchange}
    (hx : Shown c token xs) (hy : Shown c (latest c token xs) ys) : Shown c token (xs ++ ys) := by
  induction xs generalizing token with
  | nil => exact hy
  | cons x xs ih => exact ⟨hx.1, ih hx.2 hy⟩

theorem Served.shown {c c' : Client} {q : Request} {heard : List Exchange}
    {o : Except Error q.Reply} (h : Served c (.ofRequest q) heard o c') :
    Shown c.config c.token heard := by
  cases h with
  | failed hs =>
    cases hs with
    | unsent => trivial
    | lost => exact ⟨.inr ⟨q, rfl⟩, trivial⟩
  | answered => exact ⟨.inr ⟨q, rfl⟩, trivial⟩
  | refused => exact ⟨.inr ⟨q, rfl⟩, .inl rfl, trivial⟩
  | renewed _ r _ l token hl hs =>
    refine ⟨.inr ⟨q, rfl⟩, .inl rfl, ?_⟩
    have ht : note c.config (note c.config c.token (c.message (.ofRequest q), some r))
      (loginMessage c.config, some l) = token := by simp [note, hl]
    rw [ht]
    cases hs with
    | unsent => trivial
    | lost => exact ⟨.inr ⟨q, rfl⟩, trivial⟩
    | answered => exact ⟨.inr ⟨q, rfl⟩, trivial⟩

namespace Entered

variable {c c' : Client} {heard : List Exchange} {o : Except Error Unit}

theorem token (h : Entered c heard o c') :
    c' = { c with token := latest c.config c.token heard } := by
  cases h with
  | unsent => rfl
  | failed a ha => simp [latest, note, ha]
  | entered r token hr => simp [latest, note, hr]

theorem granted_iff (h : Entered c heard o c') :
    o = .ok () ↔ ∃ r token, (loginMessage c.config, some r) ∈ heard ∧ granted r = some token := by
  cases h with
  | unsent => simp
  | failed a ha =>
    refine iff_of_false nofun fun ⟨r, token, hm, ht⟩ => ?_
    obtain rfl : some r = a := by simpa using hm
    cases ha.symm.trans ht
  | entered r token hr => simp [hr]

theorem shown (h : Entered c heard o c') : Shown c.config c.token heard := by
  cases h with
  | unsent => trivial
  | failed => exact ⟨.inl rfl, trivial⟩
  | entered => exact ⟨.inl rfl, trivial⟩

end Entered

structure Enters (c : Client) (heard : List Exchange) (o : Except Error Unit) (c' : Client) :
    Prop where
  order : heard.map (·.1) <+: [loginMessage c.config]
  token : c' = { c with token := latest c.config c.token heard }
  granted_iff : o = .ok () ↔ ∃ r token, (loginMessage c.config, some r) ∈ heard ∧
    granted r = some token
  refused : o ≠ .ok () → c' = c ∧ ∃ reason, o = .error (.connection c.config.host reason)

theorem Entered.enters {c c' : Client} {heard : List Exchange} {o : Except Error Unit}
    (h : Entered c heard o c') : Enters c heard o c' where
  order := by cases h <;> simp
  token := h.token
  granted_iff := h.granted_iff
  refused ho := by
    cases h with
    | unsent _ reason => exact ⟨rfl, reason, rfl⟩
    | failed _ _ reason => exact ⟨rfl, reason, rfl⟩
    | entered => exact absurd rfl ho

inductive Demand
  | login
  | request (q : Request)

def serve : Demand → Client × W → Client × W
  | .login, s => (signIn.run.run s).2
  | .request q, s => ((send (.ofRequest q)).run.run s).2

/-- A new client and its wire after some demands. -/
def reached (c : Center.Config) (w : W) (ds : List Demand) : Client × W :=
  ds.foldl (fun s d => serve d s) ({ config := c }, w)

theorem serve_bare (d : Demand) (s : Client × Tapped W) : serve d (bare s) = bare (serve d s) := by
  cases d with
  | login => exact congrArg Prod.snd (signIn_bare s)
  | request q => exact congrArg Prod.snd (send_bare (.ofRequest q) s)

/-- A client that has the token granted last, and showed no other. -/
structure Genuine (cfg : Center.Config) (s : Client × Tapped W) : Prop where
  token : s.1 = ⟨cfg, latest cfg "" s.2.heard⟩
  shown : Shown cfg "" s.2.heard

omit [Transport W] in
theorem Genuine.extend {cfg : Center.Config} {s s' : Client × Tapped W} (h : Genuine cfg s)
    {heard : List Exchange} (hh : s'.2.heard = s.2.heard ++ heard)
    (ht : s'.1 = { s.1 with token := latest s.1.config s.1.token heard })
    (hs : Shown s.1.config s.1.token heard) : Genuine cfg s' := by
  rw [h.token] at ht hs
  refine ⟨?_, hh ▸ h.shown.append hs⟩
  rw [ht, hh, latest, latest, latest, List.foldl_append]

theorem Genuine.serve {cfg : Center.Config} {s : Client × Tapped W} (h : Genuine cfg s)
    (d : Demand) : Genuine cfg (serve d s) := by
  cases d with
  | login =>
    obtain ⟨heard, hh, hs⟩ := signIn_entered s.1 s.2
    exact h.extend hh hs.token hs.shown
  | request q =>
    obtain ⟨heard, hh, hs⟩ := send_served (.ofRequest q) s.1 s.2
    exact h.extend hh hs.token hs.shown

theorem genuine_reached (cfg : Center.Config) (w : W) (ds : List Demand) :
    Genuine cfg (reached cfg ({ wire := w } : Tapped W) ds) := by
  have run : ∀ s : Client × Tapped W, Genuine cfg s →
      Genuine cfg (ds.foldl (fun s d => Client.serve d s) s) := by
    induction ds with
    | nil => exact fun s h => h
    | cons d ds ih => exact fun s h => ih _ (h.serve d)
  exact run _ ⟨rfl, trivial⟩

theorem reached_bare (cfg : Center.Config) (w : W) (ds : List Demand) :
    reached cfg w ds = bare (reached cfg ({ wire := w } : Tapped W) ds) :=
  show ds.foldl (fun s d => serve d s) (bare ({ config := cfg }, ({ wire := w } : Tapped W))) =
      bare (ds.foldl (fun s d => serve d s) ({ config := cfg }, { wire := w }))
  from List.foldl_hom bare fun s d => serve_bare d s

/-- A client shows the token that was granted last. It logs in anew and repeats its request when
that is refused, and only then. -/
theorem session_renewed (cfg : Center.Config) (w : W) (ds : List Demand) :
    let s := reached cfg ({ wire := w } : Tapped W) ds
    reached cfg w ds = bare s ∧ Genuine cfg s ∧
    (∀ q : Request, let x := (send (.ofRequest q)).run.run s
      ∃ heard, x.2.2.heard = s.2.heard ++ heard ∧ Renews s.1 q heard x.1 x.2.1) ∧
    let x := signIn.run.run s
    ∃ heard, x.2.2.heard = s.2.heard ++ heard ∧ Enters s.1 heard x.1 x.2.1 := by
  intro s
  refine ⟨reached_bare cfg w ds, genuine_reached cfg w ds, fun q => ?_, ?_⟩
  · obtain ⟨heard, hh, hs⟩ := send_served (.ofRequest q) s.1 s.2
    exact ⟨heard, hh, hs.renews⟩
  · obtain ⟨heard, hh, hs⟩ := signIn_entered s.1 s.2
    exact ⟨heard, hh, hs.enters⟩

def center : Center.Config where
  host := "10.0.0.5"
  port := 8443
  user := "admin"
  password := "pw"

def expiring : Script where
  routes := [
    ("POST /authentication", [some { body := "\x7b\"sessonId\":\"t1\"\x7d" }]),
    ("GET /datacenters", [some { status := 401 }, some { body := "[]" }])]

theorem session_renewed_expiring :
    let s := reached center ({ wire := expiring } : Tapped Script) [.login]
    let x := (send (.ofRequest .datacenters)).run.run s
    ∃ heard, x.2.2.heard = s.2.heard ++ heard ∧ Renews s.1 .datacenters heard x.1 x.2.1 ∧
      heard.length = 3 := by
  intro s x
  obtain ⟨heard, hh, hr⟩ := (session_renewed center expiring [.login]).2.2.1 .datacenters
  have before : s.2.heard.length = 1 := by decide +kernel
  have after : x.2.2.heard.length = 4 := by decide +kernel
  have sum : x.2.2.heard.length = s.2.heard.length + heard.length :=
    (congrArg List.length hh).trans List.length_append
  exact ⟨heard, hh, hr, by omega⟩

end StorageDriver.Http.Client
