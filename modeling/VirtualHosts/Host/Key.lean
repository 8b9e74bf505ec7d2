import VirtualHosts.Text.Blank
import VirtualHosts.Text.Cut

/-!
Host keys.  The text that names a host in a request or in a site file is
reduced to a key: without blanks around it, without the port and one trailing
dot, in lower case.  Text that cannot name a host has no key.
-/

namespace VirtualHosts.Host

open VirtualHosts.Text

/-- Nothing, or a colon and digits. -/
def isPortSuffix : List Char → Bool
  | [] => true
  | c :: digits => c = ':' && digits.all Char.isDigit

/-- A host in brackets; what stands inside is not looked at. -/
def bracketed? (inner : List Char) : Option (List Char) :=
  match cutFirst? ']' inner with
  | none => none
  | some (address, suffix) =>
      if isPortSuffix suffix then some ('[' :: address ++ [']']) else none

def plain? (s : List Char) : Option (List Char) :=
  match cutLast? ':' s with
  | none => some s
  | some (host, port) =>
      if host.contains ':' then none
      else if port.all Char.isDigit then some host
      else none

def named? (s : List Char) : Option (List Char) :=
  match s with
  | '[' :: inner => bracketed? inner
  | _ => plain? s

def keyOf? (s : List Char) : Option (List Char) :=
  match named? (trim s) with
  | none => none
  | some host =>
      let host := dropFinal '.' host
      if host.isEmpty then none else some (lower host)

def key? (raw : String) : Option String :=
  (keyOf? raw.toList).map String.ofList

end VirtualHosts.Host
