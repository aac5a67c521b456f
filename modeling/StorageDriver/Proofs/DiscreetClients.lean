import StorageDriver.Http.Script
import StorageDriver.Proofs.Discretion
import StorageDriver.Proofs.Wiretap

namespace StorageDriver.Http

open Json

namespace Message

def isLogin (m : Message) : Bool := m.method = .post && m.target = .ofText "authentication"

/-- The message without what a login says of who logs in. -/
def outline (m : Message) : Message :=
  if m.isLogin then { m with authorization := "", body := none } else m

def veiledBody : Json → Json
  | .object ms => .object (ms.map fun (k, j) => (k, if k = "password" then .null else j))
  | j => j

def scheme (authorization : String) : String :=
  String.ofList (authorization.toList.takeWhile (· ≠ ' '))

/-- The message without the credentials and the password of a login. -/
def veiled (m : Message) : Message :=
  if m.isLogin then
    { m with authorization := scheme m.authorization, body := m.body.map veiledBody }
  else m

/-- They differ in nothing but what a login says of its password. -/
structure Alike (m m' : Message) : Prop where
  outline : m.outline = m'.outline
  veiled : m.veiled = m'.veiled
  sendable : Client.isSendable m = Client.isSendable m'

theorem Alike.refl (m : Message) : m.Alike m := ⟨rfl, rfl, rfl⟩

theorem Alike.place {m m' : Message} (h : m.Alike m') :
    m.origin = m'.origin ∧ m.target = m'.target := by
  have place (m : Message) : m.outline.origin = m.origin ∧ m.outline.target = m.target := by
    unfold Message.outline
    split <;> exact ⟨rfl, rfl⟩
  rw [← (place m).1, ← (place m).2, h.outline]
  exact place m'

end Message

theorem Client.alike_login {c c' : Center.Config} (h : c.veiled = c'.veiled) :
    (loginMessage c).Alike (loginMessage c') := by
  -- The credentials are legal whatever the password, so that a login fails by its host only.
  have sendable (c : Center.Config) :
      isSendable (loginMessage c) = (Origin.ofCenter c).isLegal := by
    rw [isSendable, loginMessage, legal_credentials, Bool.and_true]
  have scheme (c : Center.Config) : Message.scheme (credentials c) = "Basic" := by
    unfold Message.scheme credentials
    rw [String.toList_append]
    rfl
  have outline (c : Center.Config) : (loginMessage c).outline =
      { loginMessage c with authorization := "", body := none } := rfl
  have veiled (c : Center.Config) : (loginMessage c).veiled =
      { loginMessage c with authorization := Message.scheme (credentials c),
                            body := some (Message.veiledBody (loginBody c)) } := rfl
  obtain ⟨password, rfl⟩ := Center.Config.exists_of_veiled h
  refine ⟨?_, ?_, ?_⟩
  · rw [outline, outline]
    rfl
  · rw [veiled, veiled, scheme, scheme]
    rfl
  · rw [sendable, sendable]
    rfl

variable {W : Type} [Transport W]

def answers : List Message → W → List (Option Response)
  | [], _ => []
  | m :: ms, w => (Transport.exchange m w).1 :: answers ms (Transport.exchange m w).2

/-- Nothing that is sent tells the two apart, whatever the logins say. -/
def Indistinct (w w' : W) : Prop :=
  ∀ ms ms', ms.map Message.outline = ms'.map Message.outline → answers ms w = answers ms' w'

/-- No answer depends on the authorization or the body of a login. -/
def Heedless (w : W) : Prop := Indistinct w w

theorem Indistinct.exchange {w w' : W} (h : Indistinct w w') {m m' : Message}
    (hm : m.outline = m'.outline) :
    Agree Indistinct (Transport.exchange m w) (Transport.exchange m' w') := by
  have both (ms ms') (hms : ms.map Message.outline = ms'.map Message.outline) :=
    List.cons.inj (h (m :: ms) (m' :: ms') (by rw [List.map_cons, List.map_cons, hm, hms]))
  exact ⟨(both [] [] rfl).1, fun ms ms' hms => (both ms ms' hms).2⟩

/-- What was heard, without the passwords. -/
def Tapped.trace (t : Tapped W) : List Exchange := t.heard.map fun x => (x.1.veiled, x.2)

structure Tapped.Alike (t t' : Tapped W) : Prop where
  trace : t.trace = t'.trace
  wires : Indistinct t.wire t'.wire

theorem Tapped.Alike.exchange {t t' : Tapped W} (h : t.Alike t') {m m' : Message}
    (hm : m.Alike m') : Agree Tapped.Alike (Transport.exchange m t) (Transport.exchange m' t') := by
  obtain ⟨answer, wires⟩ := h.wires.exchange hm.outline
  refine ⟨answer, ?_, wires⟩
  show (t.heard ++ [_]).map _ = (t'.heard ++ [_]).map _
  rw [List.map_append, List.map_append]
  have last : (m.veiled, (Transport.exchange m t.wire).1) =
      (m'.veiled, (Transport.exchange m' t'.wire).1) := by rw [hm.veiled, answer]
  exact congr (congrArg _ h.trace) (congrArg (fun x => [x]) last)

namespace Client

def veiled (c : Client) : Client := { c with config := c.config.veiled }

variable {c c' : Center.Config} {t t' : Tapped W}

theorem alike_exchange (hc : c.veiled = c'.veiled) (h : t.Alike t') {m m' : Message}
    (hm : m.Alike m') :
    Agree Tapped.Alike ((exchange c m).run.run t) ((exchange c' m').run.run t') := by
  obtain ⟨host, -⟩ := Center.Config.shown_of_veiled hc
  obtain ⟨a, s, s', hs, hs', left⟩ := (h.exchange hm).parts
  rw [run_exchange, run_exchange, hm.sendable, hs, hs', hm.place.1, hm.place.2, host]
  split
  · cases a with
    | none => exact ⟨rfl, left⟩
    | some r => exact ⟨rfl, left⟩
  · exact ⟨rfl, h⟩

theorem alike_logged (hc : c.veiled = c'.veiled) (h : t.Alike t') :
    Agree Tapped.Alike ((login c).run.run t) ((login c').run.run t') := by
  obtain ⟨r, s, s', hs, hs', left⟩ := (alike_exchange hc h (alike_login hc)).parts
  obtain ⟨host, -⟩ := Center.Config.shown_of_veiled hc
  unfold login
  rw [Call.run_bind, Call.run_bind, hs, hs']
  cases r with
  | error f => exact ⟨rfl, left⟩
  | ok r =>
    dsimp only
    rw [host]
    cases Status.isSuccess r.status with
    | false => exact ⟨rfl, left⟩
    | true =>
      simp only [Bool.not_true, Bool.false_eq_true, if_false]
      cases bodyValue Login.codec r with
      | none => exact ⟨rfl, left⟩
      | some l =>
        dsimp only
        split <;> exact ⟨rfl, left⟩

/-- The clients differ in their passwords only, and so does what they have said. -/
structure Alike (x y : Client × Tapped W) : Prop where
  client : x.1.veiled = y.1.veiled
  wires : x.2.Alike y.2

variable {k k' : Client}

omit [Transport W] in
theorem config_of_veiled (h : k.veiled = k'.veiled) : k.config.veiled = k'.config.veiled :=
  congrArg Client.config h

omit [Transport W] in
theorem alike_message {α : Type} (h : k.veiled = k'.veiled) (e : Endpoint α) :
    (k.message e).Alike (k'.message e) := by
  have message (k : Client) : k.veiled.message e = k.message e := rfl
  rw [← message, h, message]
  exact .refl _

theorem alike_signIn (hk : k.veiled = k'.veiled) (h : t.Alike t') :
    Agree Alike (signIn.run.run (k, t)) (signIn.run.run (k', t')) := by
  have config := config_of_veiled hk
  obtain ⟨r, s, s', hs, hs', left⟩ := (alike_logged config h).parts
  rw [run_signIn, run_signIn, hs, hs']
  cases r with
  | error f => exact ⟨rfl, hk, left⟩
  | ok token => exact ⟨rfl, congrArg (Client.mk · token) config, left⟩

theorem alike_send {α : Type} (e : Endpoint α) (hk : k.veiled = k'.veiled) (h : t.Alike t') :
    Agree Alike ((send e).run.run (k, t)) ((send e).run.run (k', t')) := by
  have exchanged {k k' : Client} {t t' : Tapped W} (hk : k.veiled = k'.veiled) (h : t.Alike t') :=
    alike_exchange (config_of_veiled hk) h (alike_message hk e)
  obtain ⟨r, s, s', hs, hs', left⟩ := (exchanged hk h).parts
  rw [run_send, run_send, hs, hs']
  cases r with
  | error f => exact ⟨rfl, hk, left⟩
  | ok r =>
    dsimp only
    split
    · exact ⟨rfl, hk, left⟩
    · obtain ⟨r, ⟨k₁, s₁⟩, ⟨k₁', s₁'⟩, hs, hs', hk, left⟩ := (alike_signIn hk left).parts
      rw [hs, hs']
      cases r with
      | error f => exact ⟨rfl, hk, left⟩
      | ok u =>
        obtain ⟨answer, left⟩ := exchanged hk left
        exact ⟨congrArg (·.bind (read e)) answer, hk, left⟩

end Client

namespace Link

variable {l l' : Link (Tapped W)}

structure Alike (l l' : Link (Tapped W)) : Prop where
  clients : l.clients.map Client.veiled = l'.clients.map Client.veiled
  wire : l.wire.Alike l'.wire

theorem discreet : Remote.Discreet (R := Link (Tapped W)) Alike where
  connect {c c' l l'} hc h := by
    have fresh : ({ config := c } : Client).veiled = ({ config := c' } : Client).veiled :=
      congrArg (Client.mk · "") hc
    obtain ⟨host, -⟩ := Center.Config.shown_of_veiled hc
    have length : l.clients.length = l'.clients.length := by
      rw [← List.length_map (f := Client.veiled), h.clients, List.length_map]
    obtain ⟨r, ⟨k, t⟩, ⟨k', t'⟩, hs, hs', hk, left⟩ := (Client.alike_signIn fresh h.wire).parts
    show Agree Alike ((connect c).run.run l) ((connect c').run.run l')
    rw [run_connect, run_connect, hs, hs', host, length]
    cases r with
    | error f => exact ⟨rfl, h.clients, left⟩
    | ok u =>
      refine ⟨rfl, ?_, left⟩
      show (l.clients ++ [k]).map _ = (l'.clients ++ [k']).map _
      rw [List.map_append, List.map_append, h.clients]
      exact congrArg (fun x => _ ++ [x]) hk
  start s q r r' h := ⟨rfl, h⟩
  finish s q l l' h := by
    have client := congrArg (·[s.slot]?) h.clients
    simp only [List.getElem?_map] at client
    show Agree Alike (send s q l) (send s q l')
    unfold send
    cases hk : l.clients[s.slot]? with
    | none =>
      rw [hk] at client
      rw [Option.map_eq_none_iff.1 client.symm]
      exact ⟨rfl, h⟩
    | some k =>
      rw [hk] at client
      obtain ⟨k', hk', hv⟩ := Option.map_eq_some_iff.1 client.symm
      obtain ⟨r, ⟨k₁, t⟩, ⟨k₁', t'⟩, hs, hs', hk, left⟩ :=
        (Client.alike_send (.ofRequest q) hv.symm h.wire).parts
      rw [hk']
      dsimp only
      rw [hs, hs']
      refine ⟨rfl, ?_, left⟩
      show (l.clients.set s.slot k₁).map _ = (l'.clients.set s.slot k₁').map _
      rw [List.map_set, List.map_set, h.clients, hk]

end Link

namespace Script

structure Alike (s s' : Script) : Prop where
  routes : s.routes = s'.routes
  cut : s.cut = s'.cut

theorem Alike.exchange {s s' : Script} (h : s.Alike s') {m m' : Message}
    (hm : m.outline = m'.outline) :
    Agree Alike (Transport.exchange m s) (Transport.exchange m' s') := by
  have keys (m : Message) : key m.outline = key m ∧ shortKey m.outline = shortKey m := by
    unfold Message.outline
    split <;> exact ⟨rfl, rfl⟩
  have long : key m = key m' := by rw [← (keys m).1, hm, (keys m').1]
  have short : shortKey m = shortKey m' := by rw [← (keys m).2, hm, (keys m').2]
  obtain ⟨routes, log, cut⟩ := s
  obtain ⟨routes', log', cut'⟩ := s'
  obtain ⟨rfl, rfl⟩ : routes = routes' ∧ cut = cut' := ⟨h.routes, h.cut⟩
  simp only [Transport.exchange, answer, long, short]
  split
  · exact ⟨rfl, rfl, rfl⟩
  · cases routes.get? (key m') with
    | some as => exact ⟨rfl, rfl, rfl⟩
    | none =>
      cases routes.get? (shortKey m') with
      | some as => exact ⟨rfl, rfl, rfl⟩
      | none => exact ⟨rfl, rfl, rfl⟩

/-- An answer is found by the method, the host and the path of a message. -/
theorem heedless (s : Script) : Heedless s := by
  have alike {s s' : Script} (h : s.Alike s') : Indistinct s s' := by
    intro ms ms' hms
    induction ms generalizing s s' ms' with
    | nil =>
      obtain rfl := List.map_eq_nil_iff.1 hms.symm
      rfl
    | cons m ms ih =>
      obtain ⟨m', ms', rfl, hm, more⟩ := List.map_eq_cons_iff.1 hms.symm
      obtain ⟨answer, left⟩ := h.exchange hm.symm
      rw [answers, answers, answer, ih left ms' more.symm]
  exact alike ⟨rfl, rfl⟩

end Script

end StorageDriver.Http
