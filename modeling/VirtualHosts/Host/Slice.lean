import VirtualHosts.Host.Key
import VirtualHosts.Text.Offset

/-!
Host keys as they are cut out of a text at offsets.  The bracket that closes a
host is searched for its offset, and the host and what follows it are slices.
-/

namespace VirtualHosts.Host

open VirtualHosts.Text

def bracketedSlice? (inner : List Char) :
    Except SliceFault (Option (List Char)) :=
  match offset? ']' inner with
  | none => .ok none
  | some finish => do
      let suffix ← sliceFrom (finish + 1) inner
      if isPortSuffix suffix then
        let host ← sliceTo (finish + 2) ('[' :: inner)
        return some host
      else return none

def namedSlice? (s : List Char) : Except SliceFault (Option (List Char)) :=
  match s with
  | '[' :: inner => bracketedSlice? inner
  | _ => .ok (plain? s)

def keyOfNamed? (host : List Char) : Option (List Char) :=
  let host := dropFinal '.' host
  if host.isEmpty then none else some (lower host)

def keySlice? (raw : String) : Except SliceFault (Option String) := do
  let named? ← namedSlice? (trim raw.toList)
  return (named?.bind keyOfNamed?).map String.ofList

end VirtualHosts.Host
