import StorageDriver.Yaml.Node

namespace StorageDriver.Yaml

/-- How a value is read from a node of a document. -/
abbrev Reader (α : Type) : Type := Document → Node → Option α

namespace Reader

/-- Any scalar is a text, whatever its style and tag. -/
def string : Reader String := fun d n =>
  match d.resolve n with
  | .scalar _ _ text => some text
  | _ => none

def bare (tag : String) : Reader String := fun d n =>
  match d.resolve n with
  | .scalar .plain _ text => some text
  | .scalar .literal (some t) text => if t = tag then some text else none
  | _ => none

def bool : Reader Bool := fun d n => do
  let text ← bare "tag:yaml.org,2002:bool" d n
  if ["true", "True", "TRUE"].contains text then return true
  if ["false", "False", "FALSE"].contains text then return false
  none

def digits (base : Nat) (cs : List Char) : Option Nat := do
  if cs = [] then none
  let vs ← cs.mapM Scan.hexValue
  if vs.all (· < base) then return vs.foldl (fun n v => n * base + v) 0 else none

/-- Decimal digits without zeros in front, or digits of another base behind its mark. -/
def unsigned (cs : List Char) : Option Nat :=
  match cs with
  | '0' :: 'x' :: ds => digits 16 ds
  | '0' :: 'o' :: ds => digits 8 ds
  | '0' :: 'b' :: ds => digits 2 ds
  | '0' :: _ :: _ => none
  | ds => digits 10 ds

def natural (bound : Nat) : Reader Nat := fun d n => do
  let v ← match (← bare "tag:yaml.org,2002:int" d n).toList with
    | '+' :: cs => unsigned cs
    | cs => unsigned cs
  if v < bound then return v else none

def isVoid : Node → Bool
  | .scalar .plain _ "" => true
  | _ => false

/-- A sequence, or nothing. -/
def list {α : Type} (r : Reader α) : Reader (List α) := fun d n =>
  match d.resolve n with
  | .sequence items => items.mapM (r d)
  | n => if isVoid n then some [] else none

end Reader

structure Member (α : Type) where
  name : String
  needed : Bool
  store : Document → Node → α → Option α

namespace Member

variable {α β : Type}

def required (name : String) (r : Reader β) (set : α → β → α) : Member α where
  name := name
  needed := true
  store d n a := (r d n).map (set a)

def optional (name : String) (r : Reader β) (set : α → β → α) : Member α :=
  { required name r set with needed := false }

end Member

namespace Reader

variable {α : Type}

/-- Keys are texts. A known one may come once, and others are passed over. -/
def members (ms : List (Member α)) (d : Document) (seen : List String) (a : α) :
    List (Node × Node) → Option (List String × α)
  | [] => some (seen, a)
  | (k, v) :: rest => do
    let key ← string d k
    match ms.find? (·.name = key) with
    | some m =>
      if seen.contains key then none
      members ms d (key :: seen) (← m.store d v a) rest
    | none => members ms d seen a rest

/-- A mapping, or nothing, which is one without members. -/
def record (blank : α) (ms : List (Member α)) : Reader α := fun d n => do
  let pairs ← match d.resolve n with
    | .mapping pairs => some pairs
    | n => if isVoid n then some [] else none
  let (seen, a) ← members ms d [] blank pairs
  if ms.any fun m => m.needed && !seen.contains m.name then none else some a

end Reader

end StorageDriver.Yaml
