import VirtualHosts.Service.Reachable

/-!
Connection slots.  An accept takes a slot before it waits for a client.  The
slot comes back if the accept is called off or fails.  Otherwise it goes on to
the connection's task, and comes back when the connection is closed, however
it ended.  Slots have numbers, so that they can be told apart.
-/

namespace VirtualHosts.Service.Slots

inductive Accept where
  /-- Waits for a free slot. -/
  | queued
  /-- Has a slot and waits for a client. -/
  | listening (slot : Nat)
  deriving DecidableEq

inductive Loop where
  | accepting (accept : Accept)
  /-- An accept has failed, and the next one is put off. -/
  | pausing
  | stopped
  deriving DecidableEq

inductive Ending where
  | finished
  | failed
  | crashed
  /-- Cut off when the grace after a stop was over. -/
  | dropped
  deriving DecidableEq

inductive Task where
  | serving (slot : Nat)
  /-- The connection is closed, and the slot not yet back. -/
  | closed (ending : Ending) (slot : Nat)
  deriving DecidableEq

structure State where
  free : List Nat
  loop : Loop
  tasks : List Task
  deriving DecidableEq

def start (slots : Nat) : State :=
  ⟨List.range slots, .accepting .queued, []⟩

/-- What an accept gives back when it is given up. -/
def Accept.slots : Accept → List Nat
  | .queued => []
  | .listening slot => [slot]

def Loop.slots : Loop → List Nat
  | .accepting accept => accept.slots
  | .pausing => []
  | .stopped => []

namespace Task

def slot : Task → Nat
  | .serving slot => slot
  | .closed _ slot => slot

def isServing : Task → Bool
  | .serving _ => true
  | .closed _ _ => false

end Task

namespace State

def taken (state : State) : List Nat :=
  state.loop.slots ++ state.tasks.map Task.slot

/-- The number of open connections. -/
def connections (state : State) : Nat :=
  state.tasks.countP Task.isServing

def giveBack (state : State) (slots : List Nat) : State :=
  { state with free := state.free ++ slots }

end State

inductive Step : State → State → Prop where
  | acquire {state : State} {slot : Nat} {rest : List Nat}
      (queued : state.loop = .accepting .queued)
      (free : state.free = slot :: rest) :
      Step state
        { state with free := rest, loop := .accepting (.listening slot) }
  /-- A reload comes first; the next accept starts anew. -/
  | callOff {state : State} {accept : Accept}
      (accepting : state.loop = .accepting accept) :
      Step state
        { state.giveBack accept.slots with loop := .accepting .queued }
  | stop {state : State} {accept : Accept}
      (accepting : state.loop = .accepting accept) :
      Step state { state.giveBack accept.slots with loop := .stopped }
  | acceptFails {state : State} {slot : Nat}
      (listening : state.loop = .accepting (.listening slot)) :
      Step state { state.giveBack [slot] with loop := .pausing }
  | resume {state : State} (pausing : state.loop = .pausing) :
      Step state { state with loop := .accepting .queued }
  | accept {state : State} {slot : Nat}
      (listening : state.loop = .accepting (.listening slot)) :
      Step state
        { state with
          loop := .accepting .queued
          tasks := state.tasks ++ [.serving slot] }
  | close {state : State} {front back : List Task} {slot : Nat}
      (ending : Ending)
      (found : state.tasks = front ++ .serving slot :: back) :
      Step state
        { state with tasks := front ++ .closed ending slot :: back }
  | finish {state : State} {front back : List Task} {ending : Ending}
      {slot : Nat} (found : state.tasks = front ++ .closed ending slot :: back) :
      Step state { state.giveBack [slot] with tasks := front ++ back }

end VirtualHosts.Service.Slots
