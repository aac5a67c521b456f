import StorageDriver.Http.Client

namespace StorageDriver.Http

/-- The clients that were opened, a session for each, over one transport. -/
structure Link (W : Type) where
  clients : List Client := []
  wire : W

namespace Link

variable {W : Type} [Transport W]

def connect (c : Center.Config) : Call (Link W) Session := fun l =>
  match (Client.login c).run.run l.wire with
  | (.ok token, w) =>
    (.ok { host := c.host, slot := l.clients.length },
      { clients := l.clients ++ [{ config := c, token := token }], wire := w })
  | (.error e, w) => (.error e, { l with wire := w })

def send (s : Session) (q : Request) : Call (Link W) q.Reply := fun l =>
  match l.clients[s.slot]? with
  | none => (.error (.connection s.host "builder error"), l)
  | some c =>
    let (r, c, w) := (Client.send (.ofRequest q)).run.run (c, l.wire)
    (r, { clients := l.clients.set s.slot c, wire := w })

instance : Remote (Link W) where
  connect := connect
  start _ _ := pure 0
  finish := send

end Link

end StorageDriver.Http
