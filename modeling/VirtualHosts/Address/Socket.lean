import VirtualHosts.Address.Ip

/-!
Socket addresses: an internet address and a port.  The longer kind of address
stands in brackets and may name a scope.
-/

namespace VirtualHosts.Address

open VirtualHosts.Text

structure Socket where
  ip : Ip
  port : UInt16
  deriving DecidableEq

namespace Socket

/-- Digits whose value is below `bound`.  Leading zeros do not count. -/
def readNumber? (bound : Nat) (s : List Char) : Option (Nat × List Char) :=
  let digits := s.takeWhile Char.isDigit
  let value := Nat.ofDigitChars 10 digits 0
  if digits.isEmpty then none
  else if value < bound then some (value, s.dropWhile Char.isDigit)
  else none

def readPort? (s : List Char) : Option (UInt16 × List Char) := do
  let s ← dropLead? [':'] s
  let (port, s) ← readNumber? 65536 s
  return (UInt16.ofNat port, s)

def readV4? (s : List Char) : Option (Socket × List Char) := do
  let (address, s) ← V4.read? s
  let (port, s) ← readPort? s
  return (⟨.v4 address, port⟩, s)

def skipScope? (s : List Char) : Option (List Char) :=
  match s with
  | '%' :: scope => (readNumber? 4294967296 scope).map (·.2)
  | _ => some s

def readV6? (s : List Char) : Option (Socket × List Char) := do
  let s ← dropLead? ['['] s
  let (address, s) ← V6.read? s
  let s ← skipScope? s
  let s ← dropLead? [']'] s
  let (port, s) ← readPort? s
  return (⟨.v6 address, port⟩, s)

def ofText? (s : String) : Option Socket :=
  match readV4? s.toList with
  | some (socket, []) => some socket
  | _ =>
      match readV6? s.toList with
      | some (socket, []) => some socket
      | _ => none

end Socket

end VirtualHosts.Address
