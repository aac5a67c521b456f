import StorageDriver.Search.Stream

namespace StorageDriver

/-- A reader of a stream with what it has taken. It goes away after `wanted` datacenters. -/
structure Listing (R : Type) where
  stream : Stream
  net : Network R
  taken : List Datacenter := []
  wanted : Option Nat

namespace Listing

variable {R : Type}

def leave (l : Listing R) : Listing R :=
  if l.wanted = some l.taken.length then
    { l with stream := { l.stream with queue := [], heard := false } }
  else l

/-- The reader takes what there is before the producer goes on. -/
def step [Remote R] (cancelled : Bool) (l : Listing R) : Option (Listing R) :=
  match l.stream.queue with
  | d :: ds =>
    some { l with taken := l.taken ++ [d], stream := { l.stream with queue := ds } }.leave
  | [] => (l.stream.step cancelled l.net).map fun (s, n) => { l with stream := s, net := n }

theorem closer_leave (l : Listing R) (s : Stream) (h : l.stream.Closer s) :
    l.leave.stream.Closer s := by
  unfold leave
  split
  · simp only [Stream.Closer, Stream.work, List.length_nil] at *
    omega
  · exact h

theorem closer_of_step [Remote R] {cancelled : Bool} {l m : Listing R}
    (h : l.step cancelled = some m) : m.stream.Closer l.stream := by
  unfold step at h
  split at h
  · rename_i d ds hq
    obtain rfl := Option.some.inj h
    apply closer_leave
    refine .inr ⟨rfl, ?_⟩
    simp only [Stream.work, hq, List.length_cons]
    omega
  · obtain ⟨⟨s, n⟩, hs, rfl⟩ := Option.map_eq_some_iff.1 h
    exact Stream.closer_of_step hs

def run [Remote R] (cancelled : Bool) (l : Listing R) : Listing R :=
  match _h : l.step cancelled with
  | none => l
  | some m => run cancelled m
termination_by (l.stream.producer.left, l.stream.work)
decreasing_by
  rw [Prod.lex_def]
  exact closer_of_step _h

end Listing

/-- The datacenters of all centers. `room` bounds the queue, `wanted` what is taken. -/
def Network.listing {R : Type} [Remote R] (room : Nat) (wanted : Option Nat) (cancelled : Bool)
    (n : Network R) : Listing R :=
  (Listing.leave {
    stream := .ofCenters (n.centers.map (·.2.config)) room
    net := n
    wanted := wanted }).run cancelled

end StorageDriver
