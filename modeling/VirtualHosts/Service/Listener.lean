import VirtualHosts.Address.Socket

/-!
The listener and its slots.  A client is accepted when a slot is free and
takes the slot until its connection is over.
-/

namespace VirtualHosts.Service

open VirtualHosts.Address

structure Listener where
  address : Socket
  free : Nat
  arrived : Nat := 0
  /-- The clients that wait to be accepted, in order. -/
  waiting : List Nat := []
  /-- For each accepted client, in order, whether it still has its slot. -/
  accepted : List Bool := []

inductive BindFault where
  | notAddress
  | tooManySlots
  deriving DecidableEq

def BindFault.message : BindFault → String
  | .notAddress => "failed to bind: invalid socket address syntax"
  | .tooManySlots => "failed to bind: too many connection slots"

namespace Listener

/-- The most slots that can be counted: three bits of a word of sixty-four
are kept back. -/
def slotLimit : Nat := 0x1FFFFFFFFFFFFFFF

def bind (address : String) (slots : Nat) : Except BindFault Listener :=
  match Socket.ofText? address with
  | some address =>
      if slots ≤ slotLimit then .ok { address := address, free := slots }
      else .error .tooManySlots
  | none => .error .notAddress

def connect (listener : Listener) : Listener :=
  { listener with
    arrived := listener.arrived + 1
    waiting := listener.waiting ++ [listener.arrived] }

/-- The first waiting client, if there is one and a slot is free for it. -/
def accept? (listener : Listener) : Option (Nat × Listener) :=
  match listener.free, listener.waiting with
  | free + 1, client :: waiting =>
      some (client,
        { listener with
          free := free
          waiting := waiting
          accepted := listener.accepted ++ [true] })
  | _, _ => none

/-- Gives the slot of an accepted client back, if the client still has it. -/
def release (listener : Listener) (index : Nat) : Bool × Listener :=
  if listener.accepted[index]? = some true then
    (true,
      { listener with
        free := listener.free + 1
        accepted := listener.accepted.set index false })
  else (false, listener)

end Listener

end VirtualHosts.Service
