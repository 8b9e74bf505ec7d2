import Mathlib
import VirtualHosts.Proxy.Dispatch

/-!
Header rules and all else that an answer is made of.  The rules of the route
change the fields of the response once, whatever the response is, and nothing
else.
-/

namespace VirtualHosts

open VirtualHosts.Http
open VirtualHosts.Text (utf8)

def Route.withoutRules (route : Route) : Route :=
  { route with rules := [] }

namespace RouteTable

theorem find?_withoutRules (table : RouteTable) (key : String) :
    table.withoutRules.find? key =
      (table.find? key).map Route.withoutRules := by
  rw [find?, withoutRules, List.find?_map]
  rfl

theorem lookup_withoutRules (table : RouteTable) (raw : String) :
    table.withoutRules.lookup raw =
      (table.lookup raw).map Route.withoutRules := by
  rw [lookup, lookup, Option.map_bind]
  exact congrArg _ (funext table.find?_withoutRules)

end RouteTable

namespace Proxy

open VirtualHosts.Header

theorem routeFor?_withoutRules (table : RouteTable) (request : Request) :
    routeFor? table.withoutRules request =
      (routeFor? table request).map Route.withoutRules := by
  rw [routeFor?, routeFor?, Option.map_bind]
  exact congrArg _ (funext table.lookup_withoutRules)

def Answer.applyRules (answer : Answer) (rules : List Rule) : Answer :=
  { answer with response := answer.response.applyRules rules }

/-- The rules of the route that answers, if one does. -/
def rulesFor (table : RouteTable) (request : Request) : List Rule :=
  ((routeFor? table request).map Route.rules).getD []

theorem routed_eq_applyRules (around : Surroundings) (route : Route)
    (request : Request) :
    routed around route request =
      (routed around route.withoutRules request).applyRules route.rules := rfl

/-- An answer is the answer without rules, and the rules applied to it. -/
theorem dispatch_eq_applyRules (around : Surroundings) (table : RouteTable)
    (request : Request) :
    dispatch around table request =
      (dispatch around table.withoutRules request).applyRules
        (rulesFor table request) := by
  rw [dispatch, dispatch, routeFor?_withoutRules, rulesFor]
  cases routeFor? table request with
  | none => rfl
  | some route => exact routed_eq_applyRules around route request

/-! Requests that reach a backend. -/

theorem length_delivered_forward_le (network : Network) (limits : Limits)
    (backend : Site.Backend) (request : Request) :
    (forward network limits backend request).delivered.length ≤ 1 := by
  unfold forward
  split
  · exact Nat.zero_le 1
  · simp only
    split
    · exact le_refl 1
    · exact Nat.zero_le 1

theorem length_delivered_dispatch_le (around : Surroundings)
    (table : RouteTable) (request : Request) :
    (dispatch around table request).delivered.length ≤ 1 := by
  rw [dispatch]
  cases routeFor? table request with
  | none => exact Nat.zero_le 1
  | some route =>
      change (exchange around route.target request).delivered.length ≤ 1
      cases route.target with
      | backend backend =>
          exact length_delivered_forward_le around.network around.limits
            backend request
      | files root => exact Nat.zero_le 1

theorem routed_files (around : Surroundings) (network : Network)
    {route : Route} {root : Files.Path} (isFiles : route.target = .files root)
    (request : Request) :
    routed { around with network := network } route request =
      routed around route request := by
  rw [routed, routed, isFiles]
  rfl

theorem delivered_routed_files (around : Surroundings) {route : Route}
    {root : Files.Path} (isFiles : route.target = .files root)
    (request : Request) : (routed around route request).delivered = [] := by
  rw [routed, isFiles]
  rfl

/-! Answers with rules and without. -/

/-- Two answers that differ in the fields of their responses only, and in
these by rules. -/
structure DiffersByRules (rules : List Rule) (bare ruled : Answer) :
    Prop where
  status : ruled.response.status = bare.response.status
  body : ruled.response.body = bare.response.body
  fields : ruled.response.fields = Rule.applyAll rules bare.response.fields
  delivered : ruled.delivered = bare.delivered
  events : ruled.events = bare.events

theorem differsByRules_applyRules (answer : Answer) (rules : List Rule) :
    DiffersByRules rules answer (answer.applyRules rules) :=
  ⟨rfl, rfl, rfl, rfl, rfl⟩

/-- What a request gets that no site has. -/
def badGateway : Response :=
  ⟨502,
    Fields.empty.add .contentType (.literal "text/plain; charset=utf-8"),
    utf8 "Bad Gateway"⟩

theorem response_unrouted (request : Request) :
    (unrouted request).response = badGateway := by
  rw [unrouted, badGateway]
  simp only [Refusal.response, Refusal.fields, Refusal.status,
    reasonPhrase, Fields.set_empty]

theorem dispatch_of_routeFor? {around : Surroundings} {table : RouteTable}
    {request : Request} {route : Route}
    (found : routeFor? table request = some route) :
    dispatch around table request = routed around route request := by
  rw [dispatch, found]

theorem dispatch_of_unrouted {around : Surroundings} {table : RouteTable}
    {request : Request} (unfound : routeFor? table request = none) :
    dispatch around table request = unrouted request := by
  rw [dispatch, unfound]

/-- The rules of the route that answers change the fields of the response and
nothing else, and no rule changes a response that no route gives.  A backend
gets one request at most, and none if a site with files answers or no site
does. -/
theorem dispatch_differsByRules (around : Surroundings) (table : RouteTable)
    (request : Request) :
    DiffersByRules (rulesFor table request)
        (dispatch around table.withoutRules request)
        (dispatch around table request) ∧
      (dispatch around table request).delivered.length ≤ 1 ∧
      match routeFor? table request with
      | some route =>
          rulesFor table request = route.rules ∧
            ∀ root, route.target = .files root →
              (dispatch around table request).delivered = [] ∧
                ∀ network,
                  dispatch { around with network := network } table request =
                    dispatch around table request
      | none =>
          (dispatch around table request).response = badGateway ∧
            (dispatch around table request).delivered = [] ∧
            (∀ other, dispatch other table request =
              dispatch around table request) ∧
            dispatch around table.withoutRules request =
              dispatch around table request := by
  refine ⟨?_, length_delivered_dispatch_le around table request, ?_⟩
  · rw [dispatch_eq_applyRules around table request]
    exact differsByRules_applyRules _ _
  · split
    · rename_i route found
      refine ⟨by rw [rulesFor, found]; rfl, ?_⟩
      intro root isFiles
      simp only [dispatch_of_routeFor? found]
      exact ⟨delivered_routed_files around isFiles request, fun network =>
        routed_files around network isFiles request⟩
    · rename_i unfound
      -- Neither table has a route, and without one nothing around is looked at.
      have unfoundBare : routeFor? table.withoutRules request = none := by
        rw [routeFor?_withoutRules, unfound]
        rfl
      rw [dispatch_of_unrouted unfound, dispatch_of_unrouted unfoundBare]
      exact ⟨response_unrouted request, rfl,
        fun _ => dispatch_of_unrouted unfound, rfl⟩

end Proxy

end VirtualHosts
