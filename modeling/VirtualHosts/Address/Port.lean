import VirtualHosts.Text.Number

/-!
Port numbers as they are written in a site file: digits with an optional plus
sign, at most 65535.
-/

namespace VirtualHosts.Address

open VirtualHosts.Text

def port? (s : List Char) : Option UInt16 :=
  let digits :=
    match s with
    | '+' :: rest => rest
    | _ => s
  match decimal? digits with
  | some value => if value < 65536 then some (UInt16.ofNat value) else none
  | none => none

def portText (port : UInt16) : String :=
  decimal port.toNat

end VirtualHosts.Address
