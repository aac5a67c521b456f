import StorageDriver.Table

namespace StorageDriver.Cli

inductive Value
  | text
  | path
  | format
  | natural
deriving DecidableEq, Repr

inductive Fault
  | invalidValue
  | valueValidation
  | unknownArgument
  | invalidSubcommand
  | missingSubcommand
  | tooManyValues
  | argumentConflict
  | missingRequiredArgument
  | helpOnMissing
  | help
  | version
deriving DecidableEq, Repr

/-- `value` is `none` for a switch. A flag that `repeats` collects the values of all its uses. -/
structure Flag where
  long : String
  short : Option Char := none
  value : Option Value := none
  needed : Bool := false
  repeats : Bool := false
deriving DecidableEq, Repr

inductive Level
  | mk (name : String) (flags : List Flag) (subs : List Level)

abbrev Found : Type := Table (List String)

namespace Fault

def name : Fault → String
  | invalidValue => "InvalidValue"
  | valueValidation => "ValueValidation"
  | unknownArgument => "UnknownArgument"
  | invalidSubcommand => "InvalidSubcommand"
  | missingSubcommand => "MissingSubcommand"
  | tooManyValues => "TooManyValues"
  | argumentConflict => "ArgumentConflict"
  | missingRequiredArgument => "MissingRequiredArgument"
  | helpOnMissing => "DisplayHelpOnMissingArgumentOrSubcommand"
  | help => "DisplayHelp"
  | version => "DisplayVersion"

end Fault

/-- A whole number below 2 ^ 64 in decimal digits, with a plus in front or without. -/
def natural? (s : String) : Option Nat :=
  let ds := match s.toList with
    | '+' :: ds => ds
    | ds => ds
  if ds.isEmpty || !ds.all Char.isDigit then none
  else
    let n := ds.foldl (fun n d => n * 10 + (d.toNat - 48)) 0
    if n < UInt64.size then some n else none

def Value.check (v : Value) (s : String) : Except Fault Unit :=
  match v with
  | text => .ok ()
  | path => if s = "" then .error .invalidValue else .ok ()
  | format => if s = "text" ∨ s = "json" then .ok () else .error .invalidValue
  | natural => if (natural? s).isSome then .ok () else .error .valueValidation

/-- What a level has found. A flag whose value was read last, or is still to come, is not looked
at before the next. -/
structure Progress where
  found : Found := []
  pending : Option (Flag × Option String) := none

namespace Progress

def add (p : Progress) (f : Flag) (values : List String) : Except Fault Progress := do
  let before := (p.found.get? f.long).getD []
  if p.found.has f.long && !f.repeats then throw .argumentConflict
  for v in values do
    match f.value with
    | some kind => kind.check v
    | none => pure ()
  return { found := p.found.put f.long (before ++ values) }

def settle (p : Progress) : Except Fault Progress :=
  match p.pending with
  | none => .ok p
  | some (_, none) => .error .invalidValue
  | some (f, some v) => { p with pending := none }.add f [v]

def awaits (p : Progress) : Bool := p.pending.any (·.2.isNone)

def meet (p : Progress) (f : Flag) (attached : Option String) : Except Fault Progress := do
  match f.value, attached with
  | none, some _ => throw .tooManyValues
  | none, none =>
    let p ← p.settle
    if f.long = "help" then throw .help
    if f.long = "version" then throw .version
    p.add f []
  | some _, some v => (← p.settle).add f [v]
  | some _, none => return { ← p.settle with pending := some (f, none) }

/-- Meet the flags of a cluster. The first that takes a value takes the rest of the cluster. -/
def meetCluster (flags : List Flag) : Progress → List Char → Except Fault Progress
  | p, [] => .ok p
  | p, c :: cs =>
    match flags.find? (·.short = some c) with
    | none => .error .unknownArgument
    | some f =>
      if f.value.isNone then
        match p.meet f none with
        | .ok p => meetCluster flags p cs
        | .error e => .error e
      else match cs with
        | [] => p.meet f none
        | '=' :: v => p.meet f (some (String.ofList v))
        | v => p.meet f (some (String.ofList v))

def meetLong (flags : List Flag) (p : Progress) (cs : List Char) : Except Fault Progress :=
  let name := String.ofList (cs.takeWhile (· ≠ '='))
  match flags.find? (·.long = name) with
  | none => .error .unknownArgument
  | some f =>
    match cs.dropWhile (· ≠ '=') with
    | _ :: v => p.meet f (some (String.ofList v))
    | [] => p.meet f none

end Progress

namespace Level

def name : Level → String
  | mk name _ _ => name

def flags : Level → List Flag
  | mk _ flags _ => flags

def subs : Level → List Level
  | mk _ _ subs => subs

def sub? (l : Level) (name : String) : Option Level := l.subs.find? (·.name = name)

/-- What an argument in a place for none means. -/
def stray (l : Level) (behindMark : Bool) (arg : String) : Fault :=
  if l.subs.isEmpty then .unknownArgument
  else if behindMark && (arg = "help" || (l.sub? arg).isSome) then .unknownArgument
  else .invalidSubcommand

def helpOn (l : Level) : List String → Fault
  | [] => .help
  | s :: path =>
    match l.sub? s with
    | some sub => sub.helpOn path
    | none => if s = "help" && !l.subs.isEmpty && path.isEmpty then .help else .invalidSubcommand

def conclude (l : Level) (entered : Bool) (p : Progress) : Except Fault Found := do
  let p ← p.settle
  if !entered && !l.subs.isEmpty then
    throw (if p.found.isEmpty then .helpOnMissing else .missingSubcommand)
  if l.flags.any fun f => f.needed && !p.found.has f.long then throw .missingRequiredArgument
  return p.found

/-- Read arguments from a level on. Answers the levels entered and what each has found, the
innermost last. Behind the mark `--` there are no flags and no subcommands. -/
def read : Level → (behindMark : Bool) → Progress → List String →
    Except Fault (List (String × Found))
  | l, _, p, [] => do return [(l.name, ← l.conclude false p)]
  | l, true, _, arg :: _ => .error (l.stray true arg)
  | l, false, p, arg :: args =>
    match if p.awaits then none else l.sub? arg with
    | some sub => do
      let inner ← sub.read false {} args
      return (l.name, ← l.conclude true p) :: inner
    | none =>
      if !p.awaits && arg = "help" && !l.subs.isEmpty then .error (l.helpOn args)
      else match arg.toList with
      | ['-', '-'] => l.read true p args
      | '-' :: '-' :: cs => do l.read false (← p.meetLong l.flags cs) args
      | '-' :: c :: cs => do l.read false (← p.meetCluster l.flags (c :: cs)) args
      | _ =>
        match p.pending with
        | some (f, none) => l.read false { p with pending := some (f, some arg) } args
        | _ => .error (l.stray false arg)

end Level

end StorageDriver.Cli
