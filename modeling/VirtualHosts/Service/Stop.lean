/-!
The stop signal.  It may be given many times; whoever waits for it sees the
last one, and learns how many earlier ones it has missed.
-/

namespace VirtualHosts.Service

structure StopSignal where
  given : Nat := 0

structure StopWaiter where
  /-- How many signals are seen or passed over. -/
  seen : Nat
  deriving DecidableEq

inductive Receipt where
  | fired
  | empty
  | lagged (missed : Nat)
  deriving DecidableEq

namespace StopSignal

def give (signal : StopSignal) : StopSignal :=
  ⟨signal.given + 1⟩

/-- A new waiter sees the signals that come after it. -/
def subscribe (signal : StopSignal) : StopWaiter :=
  ⟨signal.given⟩

/-- One signal is kept.  A waiter that missed earlier ones is told so first. -/
def receive (signal : StopSignal) (waiter : StopWaiter) :
    Receipt × StopWaiter :=
  if signal.given ≤ waiter.seen then (.empty, waiter)
  else if signal.given = waiter.seen + 1 then (.fired, ⟨signal.given⟩)
  else
    (.lagged (signal.given - 1 - waiter.seen), ⟨signal.given - 1⟩)

end StopSignal

end VirtualHosts.Service
