import VirtualHosts.Header.Forwarded
import VirtualHosts.Header.Hop
import VirtualHosts.Http.Refusal
import VirtualHosts.Site.Target

/-!
Exchanges with backends.  The request that goes out is the one that came in,
less the fields of its last hop and with the forwarding fields set.  What the
network makes of it is one outcome, and each outcome has its answer.
-/

namespace VirtualHosts.Proxy

open VirtualHosts.Header
open VirtualHosts.Http

structure Outbound where
  /-- The backend, as the authority of the request. -/
  authority : String
  method : String
  pathQuery : String
  fields : Fields
  body : List UInt8
  deriving DecidableEq

inductive Outcome where
  /-- The backend never got the request. -/
  | unreachable (reason : String)
  /-- The backend got the request and sent nothing that can be used. -/
  | broken (reason : String)
  /-- No complete answer came in time. -/
  | silent
  | answered (response : Response)
  deriving DecidableEq

def Outcome.delivered : Outcome → Bool
  | .unreachable _ => false
  | _ => true

abbrev Network := Outbound → Outcome

structure Limits where
  requestSeconds : Nat
  maxBody : Nat
  deriving DecidableEq

/-- The request for a backend, if its address can stand in one. -/
def outbound? (backend : Site.Backend) (request : Request) :
    Option Outbound :=
  if isAuthority backend.text.toList then
    some ⟨backend.text, request.method, request.target.pathQuery,
      request.fields.stripHop.addForwarded request.client?, request.body⟩
  else none

/-- What comes of sending a request out: an answer or a refusal, and the
requests that reached a backend. -/
structure Exchange where
  result : Except Refusal Response
  delivered : List Outbound

def settle (limits : Limits) (backend : Site.Backend) :
    Outcome → Except Refusal Response
  | .unreachable reason => .error (.backendFailed backend.text reason)
  | .broken reason => .error (.backendFailed backend.text reason)
  | .silent =>
      .error (.backendTimeout backend.text limits.requestSeconds)
  | .answered response =>
      if limits.maxBody < response.body.length then
        .error (.backendFailed backend.text
          "reading body: length limit exceeded")
      else .ok { response with fields := response.fields.stripHop }

def forward (network : Network) (limits : Limits)
    (backend : Site.Backend) (request : Request) : Exchange :=
  match outbound? backend request with
  | none =>
      ⟨.error (.backendFailed backend.text
        "building upstream uri: invalid authority"), []⟩
  | some outbound =>
      let outcome := network outbound
      ⟨settle limits backend outcome,
        if outcome.delivered then [outbound] else []⟩

end VirtualHosts.Proxy
