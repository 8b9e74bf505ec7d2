import VirtualHosts.Text.Number

/-!
Events that are counted, and the labels they are counted under.
-/

namespace VirtualHosts.Proxy

open VirtualHosts.Text (decimal)

inductive ReloadOutcome where
  | applied
  | unchanged
  | failed
  deriving DecidableEq

inductive Event where
  | request (method : String) (status : Nat) (host : String)
  | duration (host : String)
  | refusal (kind : String)
  | reload (outcome : ReloadOutcome)
  deriving DecidableEq

def ReloadOutcome.text : ReloadOutcome → String
  | .applied => "applied"
  | .unchanged => "unchanged"
  | .failed => "failed"

/-- The host label of requests that no site has. -/
def noHost : String := "-"

def labelled (metric : String) (labels : List (String × String)) :
    String :=
  let pairs := labels.map fun (name, value) => name ++ "=" ++ value
  metric ++ "\x7b" ++ String.intercalate "," pairs ++ "\x7d"

/-- The metric that an event counts in, with its labels in order of their
names. -/
def Event.text : Event → String
  | .request method status host =>
      labelled "proxy_requests_total"
        [("host", host), ("method", method), ("status", decimal status)]
  | .duration host =>
      labelled "proxy_request_duration_seconds" [("host", host)]
  | .refusal kind =>
      labelled "proxy_request_errors_total" [("kind", kind)]
  | .reload outcome =>
      labelled "proxy_route_reloads_total" [("outcome", outcome.text)]

/-- Each metric once, with the number of its events, in order of the first
ones. -/
def tally (events : List Event) : List (String × Nat) :=
  let texts := events.map Event.text
  texts.eraseDups.map fun text => (text, texts.count text)

end VirtualHosts.Proxy
