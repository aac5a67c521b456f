import StorageDriver.Json.Reading

namespace StorageDriver.Json

/-- Why a text is no value of a type: it is no JSON text, or it does not fit. -/
inductive Fault
  | malformed
  | mismatch
deriving DecidableEq, Repr

/-- `decode n` may open `n` containers inside one another. -/
structure Codec (α : Type) where
  encode : α → Json
  decode : Nat → Reading → Except Fault α

def Reading.fault : Reading → Fault
  | .broken | .vast | .lone => .malformed
  | _ => .mismatch

mutual

/-- Whether `r` is complete, the range of its numbers and the halves of its pairs aside. -/
def Reading.complete : Reading → Bool
  | .broken => false
  | .array items closed => completeItems items && closed
  | .object members closed => completeMembers members && closed
  | _ => true

def Reading.completeItems : List Reading → Bool
  | [] => true
  | r :: rs => r.complete && completeItems rs

def Reading.completeMembers : List (Reading × Reading) → Bool
  | [] => true
  | (.string _, r) :: rs => r.complete && completeMembers rs
  | (.lone, r) :: rs => r.complete && completeMembers rs
  | _ => false

end

def Reading.skip (r : Reading) : Except Fault Unit :=
  if r.complete then .ok () else .error .malformed

def Reading.key : Reading → Except Fault String
  | .string k => .ok k
  | _ => .error .malformed

def closedOr {α : Type} (closed : Bool) (a : α) : Except Fault α :=
  if closed then .ok a else .error .malformed

mutual

/-- Any value as it stands. A repeated key keeps its last value. -/
def Reading.content : Nat → Reading → Except Fault Json
  | _, .null => .ok .null
  | _, .bool b => .ok (.bool b)
  | _, .number n => .ok (.number n)
  | _, .string s => .ok (.string s)
  | 0, .array _ _ => .error .malformed
  | n + 1, .array items closed => do
    closedOr closed (.array (← contentItems n items))
  | 0, .object _ _ => .error .malformed
  | n + 1, .object members closed => do
    closedOr closed (.object (← contentMembers n [] members))
  | _, .vast | _, .lone | _, .broken => .error .malformed

def Reading.contentItems : Nat → List Reading → Except Fault (List Json)
  | _, [] => .ok []
  | n, r :: rs => do
    let j ← r.content n
    return j :: (← contentItems n rs)

def Reading.contentMembers (n : Nat) (seen : Table Json) :
    List (Reading × Reading) → Except Fault (Table Json)
  | [] => .ok seen
  | (k, r) :: rs => do
    let key ← k.key
    let j ← r.content n
    contentMembers n (Table.put seen key j) rs

end

namespace Codec

variable {α β : Type}

def string : Codec String where
  encode := .string
  decode
    | _, .string s => .ok s
    | _, r => .error r.fault

def bool : Codec Bool where
  encode := .bool
  decode
    | _, .bool b => .ok b
    | _, r => .error r.fault

def natural (bound : Nat) : Codec Nat where
  encode n := .number (.int n)
  decode
    | _, .number (.int i) => if 0 ≤ i ∧ i < bound then .ok i.toNat else .error .mismatch
    | _, r => .error r.fault

/-- A double that is no number has no JSON form. -/
def double : Codec Double where
  encode d := if d.isFinite then .number (.float d) else .null
  decode
    | _, .number (.float d) => .ok d
    | _, .number (.int i) => .ok (.ofInt i)
    | _, r => .error r.fault

def decodeItems (c : Codec α) (n : Nat) : List Reading → Except Fault (List α)
  | [] => .ok []
  | r :: rs => do
    let a ← c.decode n r
    return a :: (← decodeItems c n rs)

def list (c : Codec α) : Codec (List α) where
  encode as := .array (as.map c.encode)
  decode
    | 0, .array _ _ => .error .malformed
    | n + 1, .array items closed => do closedOr closed (← decodeItems c n items)
    | _, r => .error r.fault

def decodeTexts (seen : Table String) (n : Nat) :
    List (Reading × Reading) → Except Fault (Table String)
  | [] => .ok seen
  | (k, r) :: rs => do
    let key ← k.key
    let text ← string.decode n r
    decodeTexts (Table.put seen key text) n rs

def texts : Codec (Table String) where
  encode ms := .object (ms.map fun (k, v) => (k, .string v))
  decode
    | 0, .object _ _ => .error .malformed
    | n + 1, .object members closed => do closedOr closed (← decodeTexts [] n members)
    | _, r => .error r.fault

def option (c : Codec α) : Codec (Option α) where
  encode
    | none => .null
    | some a => c.encode a
  decode
    | _, .null => .ok none
    | n, r => some <$> c.decode n r

def map (c : Codec α) (f : α → β) (g : β → α) : Codec β where
  encode b := c.encode (g b)
  decode n r := f <$> c.decode n r

end Codec

/-- One member of a record `α`. `store` puts the decoded value into the record. -/
structure Field (α : Type) where
  name : String
  aliases : List String
  needed : Bool
  /-- The member to write, or `none` to leave it out. -/
  write : α → Option Json
  store : Nat → Reading → α → Except Fault α

namespace Field

variable {α β : Type}

def required (name : String) (c : Codec β) (get : α → β) (set : α → β → α) : Field α where
  name := name
  aliases := []
  needed := true
  write a := some (c.encode (get a))
  store n r a := (set a ·) <$> c.decode n r

def optional (name : String) (c : Codec β) (get : α → β) (set : α → β → α) : Field α :=
  { required name c get set with needed := false }

def called (f : Field α) (other : String) : Field α := { f with aliases := other :: f.aliases }

def omitted (name : String) (c : Codec β) (get : α → Option β) (set : α → Option β → α) :
    Field α where
  name := name
  aliases := []
  needed := false
  write a := (get a).map c.encode
  store n r a := (set a ·) <$> c.option.decode n r

def knows (f : Field α) (key : String) : Bool := f.name = key || f.aliases.contains key

end Field

/-- The record type `α` as a JSON object: its fields, and where unknown members go. -/
structure Layout (α : Type) where
  blank : α
  fields : List (Field α)
  /-- Unknown members and how to keep one, if they are kept. -/
  rest : Option ((α → Table Json) × (α → String → Json → α)) := none

namespace Layout

variable {α : Type}

def missing (l : Layout α) (seen : List String) : Bool :=
  l.fields.any fun f => f.needed && !seen.contains f.name

/-- Unknown members are kept with their last value, or passed over. A known member may come
once. -/
def decodeMembers (l : Layout α) (n : Nat) (seen : List String) (a : α) :
    List (Reading × Reading) → Except Fault (List String × α)
  | [] => .ok (seen, a)
  | (k, r) :: ms => do
    let key ← k.key
    match l.fields.find? (·.knows key) with
    | some f =>
      if seen.contains f.name then .error .mismatch
      else
        let b ← f.store n r a
        decodeMembers l n (f.name :: seen) b ms
    | none =>
      match l.rest with
      | some (_, keep) =>
        let j ← r.content n
        decodeMembers l n seen (keep a key j) ms
      | none =>
        r.skip
        decodeMembers l n seen a ms

/-- A record written as its fields in order, the last of them left out if they have defaults. -/
def decodeRow (n : Nat) (a : α) : List (Field α) → List Reading → Bool → Except Fault α
  | [], items, closed => if items.isEmpty ∧ closed then .ok a else .error .malformed
  | fs, [], closed =>
    if !closed then .error .malformed
    else if fs.any (·.needed) then .error .mismatch
    else .ok a
  | f :: fs, r :: rs, closed => do
    let b ← f.store n r a
    decodeRow n b fs rs closed

def codec (l : Layout α) : Codec α where
  encode a :=
    .object (l.fields.filterMap (fun f => (f.write a).map (f.name, ·)) ++
      match l.rest with
      | some (get, _) => get a
      | none => [])
  decode
    | 0, .object _ _ => .error .malformed
    | n + 1, .object members closed => do
      let (seen, a) ← l.decodeMembers n [] l.blank members
      if !closed then .error .malformed
      else if l.missing seen then .error .mismatch
      else .ok a
    | 0, .array _ _ => if l.rest.isSome then .error .mismatch else .error .malformed
    | n + 1, .array items closed =>
      if l.rest.isSome then .error .mismatch else decodeRow n l.blank l.fields items closed
    | _, r => .error r.fault

end Layout

inductive Variant (α : Type)
  | unit (name : String) (a : α)
  | holding (name : String) (write : α → Option Json) (read : Nat → Reading → Except Fault α)

namespace Variant

variable {α β : Type}

def name : Variant α → String
  | .unit name _ => name
  | .holding name _ _ => name

def payload (name : String) (c : Codec β) (get : α → Option β) (make : β → α) : Variant α :=
  .holding name (fun a => (get a).map c.encode) fun n r => make <$> c.decode n r

def written [DecidableEq α] (a : α) : Variant α → Option Json
  | .unit name b => if a = b then some (.string name) else none
  | .holding name write _ => (write a).map fun j => .object [(name, j)]

/-- A key that is no string does not fit, and one behind which no value ends the object is a
mistake in the text. -/
def decodeTagged (vs : List (Variant α)) (n : Nat) :
    List (Reading × Reading) → Bool → Except Fault α
  | [], _ => .error .malformed
  | (k, r) :: more, closed => do
    let key ← Codec.string.decode n k
    let a ← match vs.find? (·.name = key) with
      | none => .error .mismatch
      | some (.unit _ a) =>
        match r with
        | .null => .ok a
        | r => .error r.fault
      | some (.holding _ _ read) => read n r
    closedOr (more.isEmpty && closed) a

/-- Nothing but a string or an object is looked at. -/
def codec [DecidableEq α] (vs : List (Variant α)) : Codec α where
  encode a := (vs.findSome? (written a)).getD .null
  decode
    | _, .string s =>
      match vs.find? (·.name = s) with
      | some (.unit _ a) => .ok a
      | _ => .error .mismatch
    | 0, .object _ _ => .error .malformed
    | n + 1, .object members closed => decodeTagged vs n members closed
    | _, _ => .error .malformed

end Variant

namespace Codec

variable {α : Type}

/-- Containers may stand 127 deep. -/
def depth : Nat := 127

def decodeText (c : Codec α) (text : String) : Except Fault α :=
  let (r, rest) := Reading.ofText text.toList
  match c.decode depth r with
  | .ok a => if rest.isEmpty then .ok a else .error .malformed
  | .error e => .error e

def decodeJson (c : Codec α) (j : Json) : Except Fault α := c.decode depth (.ofJson j)

end Codec

end StorageDriver.Json
