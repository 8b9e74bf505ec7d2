import VirtualHosts.Route.Table

/-!
The live table.  A reload publishes a whole new table; whoever took the old
one before keeps it.  Each published table has a serial number of its own, so
that an unchanged reload can be told from one that put an equal table in
place.
-/

namespace VirtualHosts

structure PublishedTable where
  serial : Nat
  table : RouteTable

structure LiveTable where
  current : PublishedTable

namespace LiveTable

def start (table : RouteTable) : LiveTable := ⟨⟨0, table⟩⟩

/-- Publishes a table, unless it does the same as the current one.  The flag
tells whether it was published. -/
def replace (live : LiveTable) (table : RouteTable) : Bool × LiveTable :=
  if live.current.table.same table then (false, live)
  else (true, ⟨⟨live.current.serial + 1, table⟩⟩)

end LiveTable

end VirtualHosts
