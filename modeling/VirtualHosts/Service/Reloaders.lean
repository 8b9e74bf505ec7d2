import VirtualHosts.Service.Reachable
import VirtualHosts.Service.Reload

/-!
Two reloaders at work on one site file.  One watches the file and one waits
for a hang-up signal; each reads the file in one step and sends the table in
a later one.  The server takes tables from the channel in the order in which
they were sent.
-/

namespace VirtualHosts.Service.Reloaders

inductive Reloader where
  /-- Reloads when the file has changed. -/
  | watcher
  /-- Reloads when it is told to. -/
  | hangup
  deriving DecidableEq

/-- A reload that has read the file. -/
structure Loaded where
  reloader : Reloader
  table : RouteTable
  /-- Whether the file was not written since it was read. -/
  current : Bool

def Loaded.outdate (loaded : Loaded) : Loaded :=
  { loaded with current := false }

structure State where
  /-- What the file holds. -/
  file : String
  /-- The reload that each reloader has read the file for and not yet sent. -/
  loaded? : Reloader → Option Loaded
  channel : List RouteTable
  live : LiveTable
  /-- Whether the watcher has sent what was written last. -/
  caughtUp : Bool
  /-- The reload that was sent last, if one was. -/
  latest? : Option Loaded

/-- The server is started with the table of the file. -/
def start (file : String) (table : RouteTable) : State :=
  ⟨file, fun _ => none, [], .start table, true, none⟩

namespace State

def write (state : State) (file : String) : State :=
  { state with
    file := file
    loaded? := fun reloader => (state.loaded? reloader).map .outdate
    caughtUp := false
    latest? := state.latest?.map .outdate }

def read (state : State) (reloader : Reloader) (table : RouteTable) : State :=
  { state with
    loaded? := fun other =>
      if other = reloader then some ⟨reloader, table, true⟩
      else state.loaded? other }

def send (state : State) (loaded : Loaded) : State :=
  { state with
    loaded? := fun other =>
      if other = loaded.reloader then none else state.loaded? other
    channel := state.channel ++ [loaded.table]
    caughtUp :=
      state.caughtUp || loaded.reloader = .watcher && loaded.current
    latest? := some loaded }

/-- The server takes the first table of the channel. -/
def apply (state : State) (table : RouteTable) (rest : List RouteTable) :
    State :=
  { state with
    channel := rest
    live := (applyReload state.live table).2 }

/-- Nothing is on its way to the server. -/
def isQuiet (state : State) : Bool :=
  (state.loaded? .watcher).isNone && (state.loaded? .hangup).isNone &&
    state.channel.isEmpty

end State

/-- Only texts that make a table are written. -/
inductive Step : State → State → Prop where
  | write {state : State} {file : String} {table : RouteTable}
      (valid : tableOf file = .ok table) :
      Step state (state.write file)
  | read {state : State} {reloader : Reloader} {table : RouteTable}
      (idle : state.loaded? reloader = none)
      (read : (reload (tableOf state.file)).1 = some table) :
      Step state (state.read reloader table)
  | send {state : State} {reloader : Reloader} {loaded : Loaded}
      (ready : state.loaded? reloader = some loaded) :
      Step state (state.send loaded)
  | apply {state : State} {table : RouteTable} {rest : List RouteTable}
      (sent : state.channel = table :: rest) :
      Step state (state.apply table rest)

end VirtualHosts.Service.Reloaders
