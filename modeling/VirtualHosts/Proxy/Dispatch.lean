import VirtualHosts.Files.Serve
import VirtualHosts.Proxy.Event
import VirtualHosts.Proxy.Exchange
import VirtualHosts.Route.Table

/-!
Dispatching a request: the table says which site answers, the site's target
makes the response, and the site's rules change its fields, also when the
response is a refusal.  A request that no site has gets a bare refusal.
-/

namespace VirtualHosts.Proxy

open VirtualHosts.Header
open VirtualHosts.Http

/-- What a dispatcher works with besides the table. -/
structure Surroundings where
  tree : Files.Tree
  network : Network
  limits : Limits

/-- A response, the requests that reached backends on its behalf, and the
events to count. -/
structure Answer where
  response : Response
  delivered : List Outbound
  events : List Event
  deriving DecidableEq

def routeFor? (table : RouteTable) (request : Request) : Option Route :=
  request.hostKey?.bind table.lookup

def exchange (around : Surroundings) (target : Site.Target)
    (request : Request) : Exchange :=
  match target with
  | .backend backend =>
      forward around.network around.limits backend request
  | .files root =>
      ⟨Files.serve around.tree root request.method request.target.path, []⟩

def refusalEvents : Except Refusal Response → List Event
  | .ok _ => []
  | .error refusal => [.refusal refusal.kind]

def responseOf : Except Refusal Response → Response
  | .ok response => response
  | .error refusal => refusal.response

def requestEvents (method host : String) (response : Response) :
    List Event :=
  [.request method response.status host, .duration host]

def unrouted (request : Request) : Answer :=
  let refusal := Refusal.noRoute request.hostKey?
  ⟨refusal.response, [],
    .refusal refusal.kind ::
      requestEvents request.method noHost refusal.response⟩

def routed (around : Surroundings) (route : Route) (request : Request) :
    Answer :=
  let exchange := exchange around route.target request
  let response := (responseOf exchange.result).applyRules route.rules
  ⟨response, exchange.delivered,
    refusalEvents exchange.result ++
      requestEvents request.method route.host response⟩

def dispatch (around : Surroundings) (table : RouteTable)
    (request : Request) : Answer :=
  match routeFor? table request with
  | some route => routed around route request
  | none => unrouted request

end VirtualHosts.Proxy
