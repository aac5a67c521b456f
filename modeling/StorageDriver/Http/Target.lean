namespace StorageDriver.Http

structure Target where
  path : String
  query : Option String
deriving DecidableEq, Repr

namespace Target

def hexDigit (n : Nat) : Char := (Nat.digitChar n).toUpper

def escapeByte (b : UInt8) : List Char := ['%', hexDigit (b.toNat / 16), hexDigit (b.toNat % 16)]

/-- A character that stays as it is, or its bytes in hexadecimal. -/
def escape (kept : Char → Bool) (c : Char) : List Char :=
  if kept c then [c] else (String.utf8EncodeChar c).flatMap escapeByte

def isGraphic (c : Char) : Bool := ' ' < c && c < '\x7f'

def pathMarks : List Char := ['"', '#', '<', '>', '?', '\x60', '\x7b', '\x7d']

def queryMarks : List Char := ['"', '#', '<', '>', '\'']

def keptInPath (c : Char) : Bool := isGraphic c && !pathMarks.contains c

def keptInQuery (c : Char) : Bool := isGraphic c && !queryMarks.contains c

def clean (cs : List Char) : List Char :=
  (cs.reverse.dropWhile (· ≤ ' ')).reverse.filter fun c => c ≠ '\t' && c ≠ '\n' && c ≠ '\r'

def isDot (s : List Char) : Bool := [".", "%2e"].contains (String.ofList (s.map Char.toLower))

def isDoubleDot (s : List Char) : Bool :=
  ["..", ".%2e", "%2e.", "%2e%2e"].contains (String.ofList (s.map Char.toLower))

/-- The segments of a path with the dots resolved. `done` holds the segments so far, the last one
first. -/
def resolve (done : List (List Char)) : List (List Char) → List (List Char)
  | [] => done.reverse
  | [s] =>
    (if isDoubleDot s then [] :: done.tail else if isDot s then [] :: done else s :: done).reverse
  | s :: ss =>
    resolve (if isDoubleDot s then done.tail else if isDot s then done else s :: done) ss

def splitSlashes : List Char → List (List Char)
  | [] => [[]]
  | c :: cs =>
    match splitSlashes cs with
    | s :: ss => if c = '/' ∨ c = '\\' then [] :: s :: ss else (c :: s) :: ss
    | [] => [[c]]

def ofText (text : String) : Target :=
  let cs := (clean text.toList).takeWhile (· ≠ '#')
  let segments := resolve [] (splitSlashes (cs.takeWhile (· ≠ '?')))
  let query := match cs.dropWhile (· ≠ '?') with
    | _ :: q => some (String.ofList (q.flatMap (escape keptInQuery)))
    | [] => none
  { path := String.ofList (segments.flatMap fun s => '/' :: s.flatMap (escape keptInPath))
    query := query }

def render (t : Target) : String := t.path ++ (t.query.elim "" ("?" ++ ·))

end Target

end StorageDriver.Http
