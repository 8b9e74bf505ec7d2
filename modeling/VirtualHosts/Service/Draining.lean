import VirtualHosts.Service.Reachable

/-!
Draining while connections come and go.  A connection that ends is taken off
the count first and wakes the drain afterwards.  The drain makes itself ready
to be woken, reads the count, and waits if the count is not zero; once ready,
it is woken by every connection that ends, also before it waits.
-/

namespace VirtualHosts.Service.Draining

/-- A connection, from its first step to its last. -/
inductive Connection where
  | counted
  /-- Off the count, and the drain not yet woken. -/
  | leaving
  deriving DecidableEq

inductive Drain where
  /-- About to make itself ready. -/
  | resting
  /-- About to read the count. -/
  | ready (woken : Bool)
  /-- About to wait, after a count that was not zero. -/
  | pausing (woken : Bool)
  | waiting (woken : Bool)
  /-- Ended, by a count of zero or at its deadline. -/
  | ended (drained : Bool)
  deriving DecidableEq

def Drain.wake : Drain → Drain
  | .ready _ => .ready true
  | .pausing _ => .pausing true
  | .waiting _ => .waiting true
  | drain => drain

structure State where
  count : Nat
  connections : List Connection
  drain : Drain
  deriving DecidableEq

def start : State := ⟨0, [], .resting⟩

inductive Step : State → State → Prop where
  | track (state : State) :
      Step state
        { state with
          count := state.count + 1
          connections := state.connections ++ [.counted] }
  | leave {state : State} {front back : List Connection}
      (found : state.connections = front ++ .counted :: back) :
      Step state
        { state with
          count := state.count - 1
          connections := front ++ .leaving :: back }
  | wake {state : State} {front back : List Connection}
      (found : state.connections = front ++ .leaving :: back) :
      Step state
        { state with
          connections := front ++ back
          drain := state.drain.wake }
  | prepare {state : State} (resting : state.drain = .resting) :
      Step state { state with drain := .ready false }
  | finish {state : State} {woken : Bool}
      (ready : state.drain = .ready woken) (zero : state.count = 0) :
      Step state { state with drain := .ended true }
  | pause {state : State} {woken : Bool}
      (ready : state.drain = .ready woken) (nonzero : state.count ≠ 0) :
      Step state { state with drain := .pausing woken }
  | wait {state : State} {woken : Bool}
      (pausing : state.drain = .pausing woken) :
      Step state { state with drain := .waiting woken }
  | resume {state : State} (woken : state.drain = .waiting true) :
      Step state { state with drain := .resting }
  | giveUp {state : State} {woken : Bool}
      (waiting : state.drain = .waiting woken) :
      Step state { state with drain := .ended false }

end VirtualHosts.Service.Draining
