import VirtualHosts.Http.Authority

/-!
Request targets, in the four forms that a request line may have.  A fragment
is dropped; a query is kept with the path.
-/

namespace VirtualHosts.Http

open VirtualHosts.Text

/-- A path and the query after it, without the question mark. -/
structure PathQuery where
  path : String
  query? : Option String
  deriving DecidableEq

inductive RequestTarget where
  | origin (place : PathQuery)
  | absolute (scheme authority : String) (place : PathQuery)
  | authority (authority : String)
  | asterisk
  deriving DecidableEq

def isPathChar (c : Char) : Bool :=
  let n := c.toNat
  n == 0x21 || n == 0x22 || (0x24 ≤ n && n ≤ 0x3B) || n == 0x3D ||
    (0x40 ≤ n && n ≤ 0x5F) || (0x61 ≤ n && n ≤ 0x7E) || 0x7F ≤ n

def isQueryChar (c : Char) : Bool :=
  let n := c.toNat
  n == 0x21 || (0x24 ≤ n && n ≤ 0x3B) || n == 0x3D || 0x3F ≤ n

def isSchemeChar (c : Char) : Bool :=
  (97 ≤ c.toNat && c.toNat ≤ 122) || (65 ≤ c.toNat && c.toNat ≤ 90) ||
    c.isDigit || c = '+' || c = '-' || c = '.' || c = '~'

def PathQuery.ofText? (s : List Char) : Option PathQuery :=
  let s := s.takeWhile (· ≠ '#')
  match cutFirst? '?' s with
  | none =>
      if s.all isPathChar then some ⟨String.ofList s, none⟩ else none
  | some (path, query) =>
      if path.all isPathChar && query.all isQueryChar then
        some ⟨String.ofList path, some (String.ofList query)⟩
      else none

def PathQuery.text (place : PathQuery) : String :=
  let path := if place.path.toList.isEmpty then "/" else place.path
  match place.query? with
  | none => path
  | some query => path ++ "?" ++ query

/-- The scheme before `://` and what follows that mark. -/
def splitScheme? (s : List Char) : Option (List Char × List Char) :=
  match cutFirst? ':' s with
  | some (scheme, '/' :: '/' :: rest) =>
      if scheme.all isSchemeChar then some (scheme, rest) else none
  | _ => none

namespace RequestTarget

def schemeLimit : Nat := 64

/-- The longest target that is read, in bytes. -/
def lengthLimit : Nat := 65534

def endsAuthority (c : Char) : Bool :=
  c = '/' || c = '?' || c = '#'

def absolute? (scheme rest : List Char) : Option RequestTarget :=
  let authority := rest.takeWhile (!endsAuthority ·)
  if schemeLimit < scheme.length || !isAuthority authority then none
  else
    (PathQuery.ofText? (rest.dropWhile (!endsAuthority ·))).map fun place =>
      .absolute (String.ofList scheme) (String.ofList authority) place

def ofText? (text : String) : Option RequestTarget :=
  if lengthLimit < text.utf8ByteSize then none
  else
    match text.toList with
    | [] => none
    | ['*'] => some .asterisk
    | '/' :: rest => (PathQuery.ofText? ('/' :: rest)).map .origin
    | s =>
        match splitScheme? s with
        | some (scheme, rest) => absolute? scheme rest
        | none =>
            if isAuthority s then some (.authority (String.ofList s))
            else none

def authority? : RequestTarget → Option String
  | .origin _ => none
  | .absolute _ named _ => some named
  | .authority named => some named
  | .asterisk => none

def path : RequestTarget → String
  | .origin place => place.path
  | .absolute _ _ place =>
      if place.path.toList.isEmpty then "/" else place.path
  | .authority _ => ""
  | .asterisk => "*"

def pathQuery : RequestTarget → String
  | .origin place => place.text
  | .absolute _ _ place => place.text
  | .authority _ => "/"
  | .asterisk => "*"

end RequestTarget

end VirtualHosts.Http
