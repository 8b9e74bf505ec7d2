import VirtualHosts.Site.Target
import VirtualHosts.Site.Token

/-!
The addresses of a site file: those a site answers to, and those of backends.
-/

namespace VirtualHosts.Site

open VirtualHosts.Text
open VirtualHosts.Address

def portAt (line : Nat) (s : List Char) : Except Error UInt16 :=
  match port? s with
  | some port =>
      if port = 0 then .error (.invalidPort line (String.ofList s))
      else .ok port
  | none => .error (.invalidPort line (String.ofList s))

/-- The host and the port of an address.  A host in brackets ends at the first
closing one; any other ends at the last colon. -/
def splitPort (line : Nat) (s : List Char) :
    Except Error (List Char × Option UInt16) :=
  match s with
  | '[' :: inner =>
      match cutFirst? ']' inner with
      | none => .error (.syntaxAt line (.unclosedBracket (String.ofList s)))
      | some (address, rest) =>
          let host := '[' :: address ++ [']']
          match rest with
          | [] => .ok (host, none)
          | ':' :: port => do
              let port ← portAt line port
              return (host, some port)
          | _ =>
              .error (.syntaxAt line (.textAfterBracket (String.ofList s)))
  | _ =>
      match cutLast? ':' s with
      | none => .ok (s, none)
      | some (host, port) => do
          let port ← portAt line port
          return (host, some port)

def plainScheme : List Char := "http://".toList

def tlsScheme : List Char := "https://".toList

def schemeMark : List Char := "://".toList

/-- A site address without its scheme.  Only the plain scheme is served. -/
def withoutScheme (line : Nat) (raw : String) (s : List Char) :
    Except Error (List Char) :=
  match dropLead? plainScheme s with
  | some rest => .ok rest
  | none =>
      if (dropLead? tlsScheme s).isSome then
        .error (.syntaxAt line (.encryptedAddress raw))
      else if containsText schemeMark s then
        .error (.syntaxAt line (.unknownScheme raw))
      else .ok s

/-- The lowercase host of a site address.  The port is checked and dropped. -/
def siteHost (line : Nat) (raw : List Char) : Except Error String := do
  let text := String.ofList raw
  let rest ← withoutScheme line text (lower raw)
  if rest.contains '/' then
    .error (.syntaxAt line (.addressPath text))
  else if rest.contains '*' then
    .error (.syntaxAt line (.wildcard text))
  else do
    let (host, _) ← splitPort line rest
    let host := dropFinal '.' host
    if host.isEmpty then
      .error (.syntaxAt line (.addressWithoutHost text))
    else .ok (String.ofList host)

/-- The host of a backend without brackets around it.  None at all means this
machine. -/
def bareHost (host : List Char) : List Char :=
  let inner := host.dropWhile (· = '[')
  let bare := (inner.reverse.dropWhile (· = ']')).reverse
  if bare.isEmpty then "localhost".toList else bare

def backendOf (line : Nat) (raw : String) : Except Error Backend := do
  let rest := (dropLead? plainScheme raw.toList).getD raw.toList
  if containsText schemeMark rest then
    .error (.syntaxAt line (.backendScheme raw))
  else
    let rest := dropFinal '/' rest
    if rest.contains '/' then
      .error (.syntaxAt line (.backendPath raw))
    else do
      let (host, port?) ← splitPort line rest
      match port? with
      | none => .error (.invalidPort line raw)
      | some port => .ok ⟨String.ofList (bareHost host), port⟩

/-- The addresses in a token: its pieces between commas, without blanks
around them and without empty ones. -/
def addressPieces (token : Token) : List (List Char) :=
  ((pieces ',' token.text.toList).map trim).filter (!·.isEmpty)

end VirtualHosts.Site
