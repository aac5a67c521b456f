import StorageDriver.Cli.Grammar
import StorageDriver.Text.Blank

namespace StorageDriver.Cli

inductive Format
  | text
  | json
deriving DecidableEq, Repr

/-- A node and, if it is known, its UUID. -/
structure NodeName where
  name : String
  uuid : String
deriving DecidableEq, Repr

inductive Command
  | resolve (name uuid : String)
  | nodesGet (node : NodeName)
  | nodesList (nodes : List NodeName)
  | volumeCreate (name : String) (capacity : Nat) (dataStore : String) (fsType : Option String)
  | volumeDelete (id : String)
  | volumeExpand (id : String) (capacity : Nat) (block : Bool)
  | volumeAttach (id : String) (node : NodeName)
  | volumeDetach (id : String) (node : NodeName)
  | taskWait (host id : String)
  | info
deriving DecidableEq, Repr

structure Invocation where
  config : Option String
  format : Format
  insecure : Bool
  noKube : Bool
  command : Command
deriving DecidableEq, Repr

/-- A name, with a UUID behind the first equals sign. -/
def NodeName.ofText (s : String) : NodeName :=
  let cs := s.toList
  { name := String.ofList (Text.trimChars (cs.takeWhile (· ≠ '=')))
    uuid := String.ofList (Text.trimChars (cs.dropWhile (· ≠ '=')).tail) }

def text (long : String) (needed : Bool := false) (short : Option Char := none) : Flag :=
  { long := long, short := short, value := some .text, needed := needed }

def globals : List Flag := [
  { long := "config", short := some 'c', value := some .path },
  { long := "log-format", value := some .format },
  { long := "insecure" },
  { long := "no-kube" },
  { long := "help", short := some 'h' }]

def leaf (name : String) (flags : List Flag) : Level := .mk name (flags ++ globals) []

def resolveLevel : Level := leaf "resolve" [text "name" false 'n', text "uuid" false 'u']

def nodesLevel : Level := .mk "nodes" globals [
  leaf "get" [text "name" true 'n', text "uuid" false 'u'],
  leaf "list" [{ long := "node", value := some .text, needed := true, repeats := true }]]

def volumeLevel : Level := .mk "volume" globals [
  leaf "create" [
    text "name" true 'n', { long := "capacity-bytes", value := some .natural },
    text "datastore" true, text "fs-type"],
  leaf "delete" [text "id" true],
  leaf "expand" [
    text "id" true, { long := "capacity-bytes", value := some .natural, needed := true },
    { long := "block" }],
  leaf "attach" [text "id" true, text "node" true, text "node-uuid"],
  leaf "detach" [text "id" true, text "node" true, text "node-uuid"]]

def taskLevel : Level := .mk "task" globals [leaf "wait" [text "host" true, text "id" true]]

def programName : String := "ics-csi-driver"

def programVersion : String := "0.1.0"

def top : Level := .mk programName ({ long := "version", short := some 'V' } :: globals) [
  resolveLevel, nodesLevel, volumeLevel, taskLevel, leaf "info" []]

/-- The flag as the innermost level has it that has it at all. -/
def lookup (levels : List (String × Found)) (flag : String) : Option (List String) :=
  levels.reverse.findSome? fun (_, found) => found.get? flag

def Command.ofLevels (levels : List (String × Found)) : Option Command :=
  let opt := fun flag => (lookup levels flag).bind List.head?
  let str := fun flag => (opt flag).getD ""
  let num := fun flag => ((opt flag).bind natural?).getD 0
  let node := fun name uuid => ({ name := str name, uuid := str uuid } : NodeName)
  match levels.tail.map (·.1) with
  | ["resolve"] => some (.resolve (str "name") (str "uuid"))
  | ["nodes", "get"] => some (.nodesGet (node "name" "uuid"))
  | ["nodes", "list"] =>
    some (.nodesList (((lookup levels "node").getD []).map NodeName.ofText))
  | ["volume", "create"] =>
    some (.volumeCreate (str "name") (num "capacity-bytes") (str "datastore") (opt "fs-type"))
  | ["volume", "delete"] => some (.volumeDelete (str "id"))
  | ["volume", "expand"] =>
    some (.volumeExpand (str "id") (num "capacity-bytes") (lookup levels "block").isSome)
  | ["volume", "attach"] => some (.volumeAttach (str "id") (node "node" "node-uuid"))
  | ["volume", "detach"] => some (.volumeDetach (str "id") (node "node" "node-uuid"))
  | ["task", "wait"] => some (.taskWait (str "host") (str "id"))
  | ["info"] => some .info
  | _ => none

def Invocation.ofArguments (args : List String) : Except Fault Invocation := do
  let levels ← top.read false {} args
  let some command := Command.ofLevels levels | throw .missingSubcommand
  return {
    config := (lookup levels "config").bind List.head?
    format := if (lookup levels "log-format").bind List.head? = some "json" then .json else .text
    insecure := (lookup levels "insecure").isSome
    noKube := (lookup levels "no-kube").isSome
    command := command }

end StorageDriver.Cli
