import Mathlib
import VirtualHosts.Proofs.Files.Serving
import VirtualHosts.Proofs.Host.Stability
import VirtualHosts.Proofs.Proxy.Forwarding
import VirtualHosts.Proofs.Route.Table
import VirtualHosts.Proxy.Dispatch

/-!
Which route answers a request.  The host of a request is reduced to a key
before it is looked up, and the look-up reduces it once more.  This is the same
as one look-up of the text itself unless the key ends in a dot or a blank.
-/

namespace VirtualHosts

open VirtualHosts.Host

namespace RouteTable

/-- Looking a key up like any other text finds what is kept under it, unless
the key ends loosely: then both must find nothing. -/
theorem lookup_key_eq_find?_iff (table : RouteTable) {raw key : String}
    (read : key? raw = some key) :
    table.lookup key = table.find? key ↔
      (EndsLoose key.toList →
        table.find? key = none ∧ table.lookup key = none) := by
  rw [lookup_eq_bind]
  constructor
  · intro same loose
    cases found : table.find? key with
    | none => exact ⟨rfl, same.trans found⟩
    | some route =>
        exfalso
        rw [found] at same
        obtain ⟨other, again, foundAgain⟩ := Option.bind_eq_some_iff.mp same
        have sameKey : other = key :=
          (host_of_find? foundAgain).symm.trans (host_of_find? found)
        rw [sameKey] at again
        exact (key?_self_iff read).mp again loose
  · intro both
    by_cases loose : EndsLoose key.toList
    · obtain ⟨unkept, unfound⟩ := both loose
      exact unfound.trans unkept.symm
    · rw [(key?_self_iff read).mpr loose]
      rfl

end RouteTable

namespace Proxy

open VirtualHosts.Http

/-- The answer to a request when a look-up has found a route, or none. -/
def answerWith (around : Surroundings) (request : Request) :
    Option Route → Answer
  | some route => routed around route request
  | none => unrouted request

theorem dispatch_eq_answerWith (around : Surroundings) (table : RouteTable)
    (request : Request) :
    dispatch around table request =
      answerWith around request (routeFor? table request) := by
  unfold dispatch answerWith
  cases routeFor? table request <;> rfl

theorem exchange_ne_noRoute (around : Surroundings) (target : Site.Target)
    (request : Request) (host? : Option String) :
    (exchange around target request).result ≠ .error (.noRoute host?) := by
  cases target with
  | backend backend =>
      intro refused
      rcases refusesBackend_of_forward refused with ⟨_, other⟩ | ⟨_, other⟩
      · contradiction
      · contradiction
  | files root =>
      exact Files.serve_ne_noRoute around.tree root request.method
        request.target.path host?

theorem eq_noRoute_of_kind {refusal : Refusal}
    (kind : refusal.kind = "route_not_found") :
    ∃ host?, refusal = .noRoute host? := by
  cases refusal with
  | noRoute host? => exact ⟨host?, rfl⟩
  | _ => simp [Refusal.kind] at kind

/-- What is counted tells an answer from a site from one that no site gave. -/
theorem routed_ne_unrouted (around : Surroundings) (route : Route)
    (request : Request) :
    routed around route request ≠ unrouted request := by
  intro same
  have events := congrArg Answer.events same
  cases result : (exchange around route.target request).result with
  | ok response =>
      simp [routed, unrouted, result, refusalEvents, requestEvents] at events
  | error refusal =>
      simp only [routed, unrouted, result, refusalEvents, List.cons_append,
        List.nil_append, List.cons.injEq, Event.refusal.injEq] at events
      obtain ⟨host?, rfl⟩ := eq_noRoute_of_kind events.1
      exact exchange_ne_noRoute around route.target request host? result

theorem host_eq_of_routed_eq {around : Surroundings} {first second : Route}
    {request : Request}
    (same : routed around first request = routed around second request) :
    first.host = second.host := by
  have last := congrArg (fun answer => answer.events.getLast?) same
  simpa [routed, requestEvents, List.getLast?_append] using last

/-- Answers are the same only if they come from the same route. -/
theorem answerWith_inj {around : Surroundings} {request : Request}
    {table : RouteTable} {first second : Option Route}
    (fromTable : ∀ route ∈ first, route ∈ table.routes)
    (fromTable' : ∀ route ∈ second, route ∈ table.routes) :
    answerWith around request first = answerWith around request second ↔
      first = second := by
  refine ⟨fun same => ?_, fun same => by rw [same]⟩
  cases first with
  | none =>
      cases second with
      | none => rfl
      | some route => exact absurd same.symm (routed_ne_unrouted around route request)
  | some route =>
      cases second with
      | none => exact absurd same (routed_ne_unrouted around route request)
      | some other =>
          have sameHost := host_eq_of_routed_eq same
          rw [List.inj_on_of_nodup_map table.nodup_hosts
            (fromTable route rfl) (fromTable' other rfl) sameHost]

theorem mem_of_bind_find? {table : RouteTable} {key? : Option String}
    {route : Route} (found : route ∈ key?.bind table.find?) :
    route ∈ table.routes := by
  obtain ⟨key, _, found⟩ := Option.bind_eq_some_iff.mp found
  exact (RouteTable.find?_eq_some_iff.mp found).1

theorem single_lookup_eq (table : RouteTable) (request : Request) :
    request.hostText?.bind table.lookup =
      request.hostKey?.bind table.find? := by
  rw [Request.hostKey?]
  rw [Option.bind_assoc]
  rfl

/-- A request is answered from the route that one look-up of its host text
gives, and refused when that gives none, exactly if a host key that ends in a
dot or a blank is in the table neither as it is nor read again. -/
theorem dispatch_eq_single_lookup_iff (around : Surroundings)
    (table : RouteTable) (request : Request) :
    dispatch around table request =
        answerWith around request (request.hostText?.bind table.lookup) ↔
      ∀ key, request.hostKey? = some key → EndsLoose key.toList →
        table.find? key = none ∧ table.lookup key = none := by
  rw [dispatch_eq_answerWith, single_lookup_eq]
  rw [routeFor?]
  cases named : request.hostKey? with
  | none => simp
  | some key =>
      obtain ⟨raw, _, read⟩ := Option.bind_eq_some_iff.mp named
      simp only [Option.bind_some, Option.some.injEq, forall_eq']
      rw [← table.lookup_key_eq_find?_iff read]
      apply answerWith_inj
      · intro route found
        exact mem_of_bind_find? found
      · intro route found
        exact (RouteTable.find?_eq_some_iff.mp found).1

/-- Two trailing dots are both dropped on the way to a route, although a
look-up drops one of them only. -/
theorem dispatch_two_trailing_dots :
    let table : RouteTable := ⟨[⟨"a.example", .files ⟨"/srv"⟩, []⟩], by simp⟩
    let request : Request :=
      ⟨"GET", .origin ⟨"/", none⟩,
        Header.Fields.empty.add .host (.literal "a.example.."), [], none⟩
    request.hostText? = some "a.example.." ∧
      table.lookup "a.example.." = none ∧
      ∀ around, dispatch around table request ≠
        answerWith around request (request.hostText?.bind table.lookup) := by
  intro table request
  have named : request.hostText? = some "a.example.." := by decide
  have unfound : table.lookup "a.example.." = none := by decide
  refine ⟨named, unfound, ?_⟩
  intro around same
  have found :
      routeFor? table request =
        some ⟨"a.example", .files ⟨"/srv"⟩, []⟩ := by decide
  rw [dispatch_eq_answerWith, found, named, Option.bind_some, unfound] at same
  exact routed_ne_unrouted around _ request same

end Proxy

end VirtualHosts
