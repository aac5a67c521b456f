import StorageDriver.Http.Message
import StorageDriver.Table

namespace StorageDriver.Http

abbrev Script.Answer : Type := Option Response

/-- A route names a method and a path, with or without the host in front of it. Its answers are
given in turn, and the last one stays. Where the line is cut nothing arrives. -/
structure Script where
  routes : Table (List Script.Answer) := []
  log : List Message := []
  cut : Bool := false

namespace Script

def key (m : Message) : String :=
  s!"{m.method.text} {m.origin.host}:{m.origin.port}{m.target.render}"

def shortKey (m : Message) : String := s!"{m.method.text} {m.target.render}"

def noRoute : Response where
  status := 404
  body := "no route"

def draw : List Answer → Answer × List Answer
  | [] => (some noRoute, [])
  | [a] => (a, [a])
  | a :: as => (a, as)

def answer (s : Script) (key : String) : Option (Answer × Script) :=
  (s.routes.get? key).map fun as =>
    let (a, as) := draw as
    (a, { s with routes := s.routes.put key as })

instance : Transport Script where
  exchange m s :=
    if s.cut then (none, s)
    else
      let s := { s with log := s.log ++ [m] }
      ((s.answer (key m)).or (s.answer (shortKey m))).getD (some noRoute, s)

end Script

end StorageDriver.Http
