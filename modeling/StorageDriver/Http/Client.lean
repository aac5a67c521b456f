import StorageDriver.Http.Base64
import StorageDriver.Http.Endpoint
import StorageDriver.Http.Status
import StorageDriver.Remote

namespace StorageDriver.Http

open Json

/-- `token` is empty before the first login. -/
structure Client where
  config : Center.Config
  token : String := ""
deriving DecidableEq, Repr

namespace Client

variable {W : Type}

def baseUrl (c : Center.Config) : String := c.describe

def details (c : Center.Config) : String :=
  Text.record "RestClient" [
    ("base_url", Text.quote (baseUrl c)),
    ("username", Text.quote c.user)] true

def credentials (c : Center.Config) : String :=
  "Basic " ++ String.ofList (Base64.encode (s!"{c.user}:{c.password}".toUTF8.toList))

def loginBody (c : Center.Config) : Json := .object [
  ("username", .string c.user),
  ("password", .string c.password),
  ("locale", .string "cn"),
  ("domain", .string "internal"),
  ("captcha", .string "")]

def isLegalHeader (s : String) : Bool := s.toList.all fun c => c = '\t' || (' ' ≤ c && c ≠ '\x7f')

/-- The body of an answer as text, which is empty if it did not come to its end. -/
def bodyText (r : Response) : String :=
  if r.whole && !Status.isBare r.status then r.body else ""

def bodyValue {α : Type} (c : Codec α) (r : Response) : Option α :=
  if r.whole && !Status.isBare r.status then (c.decodeText r.body).toOption else none

def undecoded : String := "error decoding response body"

variable [Transport W]

def exchange (c : Center.Config) (m : Message) : Call W Response := do
  if !m.origin.isLegal || !isLegalHeader m.authorization then
    throw (.connection c.host "builder error")
  match ← (ExceptT.lift (Transport.exchange m) : Call W _) with
  | some r => return r
  | none =>
    throw (.connection c.host
      s!"error sending request for url ({m.origin.url}{m.target.render})")

def loginMessage (c : Center.Config) : Message where
  method := .post
  origin := .ofCenter c
  target := .ofText "authentication"
  authorization := credentials c
  body := some (loginBody c)

def login (c : Center.Config) : Call W String := do
  let r ← exchange c (loginMessage c)
  if !Status.isSuccess r.status then
    throw (.connection c.host
      ("login rejected with status " ++ Status.text r.status ++ ": " ++ bodyText r))
  match bodyValue Login.codec r with
  | none => throw (.connection c.host ("parse login response: " ++ undecoded))
  | some l =>
    if l.session = "" then
      throw (.connection c.host s!"login returned no session: {l.message}")
    return l.session

def message {α : Type} (c : Client) (e : Endpoint α) : Message where
  method := e.method
  origin := .ofCenter c.config
  target := .ofText e.path
  authorization := c.token
  body := e.body

def read {α : Type} (e : Endpoint α) (r : Response) : Except Error α :=
  if !Status.isSuccess r.status then .error (.rest r.status (bodyText r))
  else match bodyValue e.reply r with
    | some a => .ok a
    | none => .error (.rest r.status ("decode response: " ++ undecoded))

/-- Send a request. The state is the client with its transport. -/
def send {α : Type} (e : Endpoint α) : Call (Client × W) α := fun (c, w) =>
  match (exchange c.config (c.message e)).run.run w with
  | (.error f, w) => (.error f, c, w)
  | (.ok r, w) =>
    if r.status ≠ 401 then (read e r, c, w)
    else match (login c.config).run.run w with
      | (.error f, w) => (.error f, c, w)
      | (.ok token, w) =>
        let c := { c with token := token }
        match (exchange c.config (c.message e)).run.run w with
        | (.error f, w) => (.error f, c, w)
        | (.ok r, w) => (read e r, c, w)

end Client

end StorageDriver.Http
