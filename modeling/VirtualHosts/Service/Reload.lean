import VirtualHosts.Proxy.Event
import VirtualHosts.Route.Live
import VirtualHosts.Service.Load

/-!
Reloading.  The site file is read and made into a table, which is sent to the
server; a file that makes no table is counted and sends nothing.  The server
puts a table in place unless it does the same as the live one.
-/

namespace VirtualHosts.Service

open VirtualHosts.Proxy

/-- What a reload sends, and what it counts. -/
def reload (loaded : Except LoadError RouteTable) :
    Option RouteTable × List Event :=
  match loaded with
  | .ok table => (some table, [])
  | .error _ => (none, [.reload .failed])

/-- What the server makes of a table it is sent. -/
def applyReload (live : LiveTable) (table : RouteTable) :
    ReloadOutcome × LiveTable :=
  match live.replace table with
  | (true, live) => (.applied, live)
  | (false, live) => (.unchanged, live)

end VirtualHosts.Service
