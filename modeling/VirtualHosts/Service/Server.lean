import VirtualHosts.Http.Identifier
import VirtualHosts.Proxy.Dispatch
import VirtualHosts.Service.Reload

/-!
The server.  Each request gets an identifier and is dispatched by the table
that is live when it comes; reloads put other tables in place in between.
-/

namespace VirtualHosts.Service

open VirtualHosts.Http
open VirtualHosts.Proxy

structure Server where
  around : Surroundings
  live : LiveTable
  /-- What was counted, in order. -/
  events : List Event

namespace Server

def start (around : Surroundings) (table : RouteTable) : Server :=
  ⟨around, .start table, []⟩

/-- Answers a request that has an identifier. -/
def dispatch (server : Server) (request : Request) : Answer × Server :=
  let answer := Proxy.dispatch server.around server.live.current.table request
  (answer, { server with events := server.events ++ answer.events })

/-- Answers a request as it comes in from a client. -/
def handle (server : Server) (seed : Seed) (client : Address.Ip)
    (request : Request) : Answer × Server :=
  server.dispatch
    ({ request with client? := some client }.identify seed)

/-- Puts a table in place without counting it. -/
def replace (server : Server) (table : RouteTable) : Bool × Server :=
  let (changed, live) := server.live.replace table
  (changed, { server with live := live })

/-- Puts a table in place that came from a reload. -/
def applyReload (server : Server) (table : RouteTable) :
    ReloadOutcome × Server :=
  let (outcome, live) := Service.applyReload server.live table
  (outcome,
    { server with
      live := live
      events := server.events ++ [.reload outcome] })

/-- What happens to a server, one thing after the other. -/
inductive Step where
  | request (request : Request)
  | replace (table : RouteTable)
  | reload (table : RouteTable)
  /-- From now on the files or the backends are others. -/
  | change (around : Surroundings)

def step (server : Server) : Step → Server
  | .request request => (server.dispatch request).2
  | .replace table => (server.replace table).2
  | .reload table => (server.applyReload table).2
  | .change around => { server with around := around }

def run (server : Server) (steps : List Step) : Server :=
  steps.foldl step server

def hosts (server : Server) : List String :=
  server.live.current.table.hosts

end Server

end VirtualHosts.Service
