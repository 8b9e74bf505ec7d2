/-!
Open connections.  Each one is counted while it is open and has an identifier
that no other has had; the gauge shows the count after every change.
-/

namespace VirtualHosts.Service

structure Connections where
  counted : Nat := 0
  opened : List Nat := []
  gauge : Nat := 0
  deriving DecidableEq

namespace Connections

def active (connections : Connections) : Nat :=
  connections.opened.length

/-- Counts a connection; its identifier is the number of those before it. -/
def track (connections : Connections) : Nat × Connections :=
  let opened := connections.opened ++ [connections.counted]
  (connections.counted, ⟨connections.counted + 1, opened, opened.length⟩)

def close (connections : Connections) (id : Nat) : Connections :=
  let opened := connections.opened.erase id
  { connections with opened := opened, gauge := opened.length }

def closeAll (connections : Connections) : Connections :=
  connections.opened.foldl close connections

def isDrained (connections : Connections) : Bool :=
  connections.active = 0

@[simp] theorem active_track (connections : Connections) :
    connections.track.2.active = connections.active + 1 := by
  simp [track, active]

theorem active_close {connections : Connections} {id : Nat}
    (isOpen : id ∈ connections.opened) :
    (connections.close id).active + 1 = connections.active := by
  have := List.length_pos_of_mem isOpen
  simp only [close, active, List.length_erase_of_mem isOpen]
  omega

end Connections

end VirtualHosts.Service
