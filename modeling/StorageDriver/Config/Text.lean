import StorageDriver.Config
import StorageDriver.Yaml.Record

namespace StorageDriver.Config

open Yaml

def Global.reader : Reader Global := .record {} [
  .optional "cluster_id" .string fun g s => { g with cluster := s },
  .optional "resolver_pool_size" (.natural UInt64.size) fun g n => { g with poolSize := n }]

def Entry.reader : Reader Entry := .record { host := "", user := "", password := "" } [
  .required "host" .string fun e s => { e with host := s },
  .optional "port" (.natural UInt16.size) fun e n => { e with port := n },
  .required "user" .string fun e s => { e with user := s },
  .required "password" .string fun e s => { e with password := s },
  .optional "insecure" .bool fun e b => { e with insecure := b },
  .optional "datacenters" .string fun e s => { e with datacenters := s }]

def reader : Reader Config := .record {} [
  .optional "global" Global.reader fun c g => { c with global := g },
  .optional "virtual_centers" (.list Entry.reader) fun c es => { c with entries := es }]

inductive Fault
  /-- The text is no YAML, or does not fit. -/
  | unread
  | invalid (e : Error)
deriving DecidableEq, Repr

def ofText (text : String) : Except Fault Config :=
  match (Document.ofText text).bind fun d => reader d d.root with
  | none => .error .unread
  | some c =>
    match c.validate with
    | .ok _ => .ok c
    | .error e => .error (.invalid e)

def unreadable (path reason : String) : Fault := .invalid (.config s!"read {path}: {reason}")

def ofFile (path : String) (bytes : Option ByteArray) : Except Fault Config :=
  match bytes with
  | none => .error (unreadable path "No such file or directory (os error 2)")
  | some bs =>
    match String.fromUTF8? bs with
    | some text => ofText text
    | none => .error (unreadable path "stream did not contain valid UTF-8")

def defaultPath : String := "/etc/ics-csi/csi-config.yaml"

end StorageDriver.Config
