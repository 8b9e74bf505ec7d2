import Mathlib
import VirtualHosts.Proofs.Files.Faults
import VirtualHosts.Proofs.Proxy.Forwarding
import VirtualHosts.Proofs.Proxy.Rules

/-!
One request and its answer: the route that answers, the refusal if there is
one, and the events that are counted for it.
-/

namespace VirtualHosts

open VirtualHosts.Http

namespace Proxy

/-- A request, and what it was answered by. -/
structure Handled where
  around : Surroundings
  table : RouteTable
  request : Request

namespace Handled

def answer (handled : Handled) : Answer :=
  dispatch handled.around handled.table handled.request

def route? (handled : Handled) : Option Route :=
  routeFor? handled.table handled.request

/-- The host of the route that answers, or the label of requests without
one. -/
def host (handled : Handled) : String :=
  match handled.route? with
  | some route => route.host
  | none => noHost

def refusalOf? : Except Refusal Response → Option Refusal
  | .ok _ => none
  | .error refusal => some refusal

/-- Why the request was not answered as asked, if it was not. -/
def refusal? (handled : Handled) : Option Refusal :=
  match handled.route? with
  | some route =>
      refusalOf? (exchange handled.around route.target handled.request).result
  | none => some (.noRoute handled.request.hostKey?)

variable {handled : Handled}

theorem answer_of_route {route : Route} (found : handled.route? = some route) :
    handled.answer = routed handled.around route handled.request :=
  dispatch_of_routeFor? found

theorem answer_of_unrouted (unfound : handled.route? = none) :
    handled.answer = unrouted handled.request :=
  dispatch_of_unrouted unfound

theorem refusalEvents_eq (result : Except Refusal Response) :
    refusalEvents result =
      (refusalOf? result).toList.map fun refusal => .refusal refusal.kind := by
  cases result <;> rfl

/-- A request is counted once and timed once, and its refusal is counted if it
has one. -/
theorem events_answer (handled : Handled) :
    handled.answer.events =
      handled.refusal?.toList.map (fun refusal => .refusal refusal.kind) ++
        requestEvents handled.request.method handled.host
          handled.answer.response := by
  cases found : handled.route? with
  | none =>
      rw [answer_of_unrouted found, refusal?, host, found]
      rfl
  | some route =>
      rw [answer_of_route found, refusal?, host, found, ← refusalEvents_eq]
      rfl

theorem rulesFor_of_route {route : Route}
    (found : handled.route? = some route) :
    rulesFor handled.table handled.request = route.rules := by
  rw [rulesFor, ← route?, found]
  rfl

theorem refusal?_eq_some_iff {route : Route} {refusal : Refusal}
    (found : handled.route? = some route) :
    handled.refusal? = some refusal ↔
      (exchange handled.around route.target handled.request).result =
        .error refusal := by
  rw [refusal?, found]
  cases result : (exchange handled.around route.target handled.request).result
  <;> simp [result, refusalOf?]

theorem refusal?_eq_none_iff {route : Route}
    (found : handled.route? = some route) :
    handled.refusal? = none ↔
      ∃ response, (exchange handled.around route.target
        handled.request).result = .ok response := by
  rw [refusal?, found]
  cases result : (exchange handled.around route.target handled.request).result
  <;> simp [result, refusalOf?]

theorem response_of_refusal {refusal : Refusal}
    (refused : handled.refusal? = some refusal) :
    handled.answer.response =
      refusal.response.applyRules
        (rulesFor handled.table handled.request) := by
  cases found : handled.route? with
  | none =>
      rw [refusal?, found] at refused
      cases refused
      have bare : rulesFor handled.table handled.request = [] := by
        rw [rulesFor, ← route?, found]
        rfl
      rw [answer_of_unrouted found, bare]
      rfl
  | some route =>
      have result := (refusal?_eq_some_iff found).mp refused
      rw [answer_of_route found, routed, result, rulesFor_of_route found]
      rfl

theorem exists_of_no_refusal (served : handled.refusal? = none) :
    ∃ route response, handled.route? = some route ∧
      (exchange handled.around route.target handled.request).result =
        .ok response ∧
      handled.answer.response = response.applyRules route.rules := by
  cases found : handled.route? with
  | none => simp [refusal?, found] at served
  | some route =>
      obtain ⟨response, result⟩ := (refusal?_eq_none_iff found).mp served
      refine ⟨route, response, rfl, result, ?_⟩
      rw [answer_of_route found, routed, result]
      rfl

/-- A backend's own answer is no refusal, whatever its status says. -/
theorem refusal?_of_reply {route : Route} {backend : Site.Backend}
    {out : Outbound} {reply : Response}
    (found : handled.route? = some route)
    (isBackend : route.target = .backend backend)
    (made : outbound? backend handled.request = some out)
    (answered : handled.around.network out = .answered reply)
    (fits : reply.body.length ≤ handled.around.limits.maxBody) :
    handled.refusal? = none ∧
      handled.answer.response.status = reply.status := by
  have result : (exchange handled.around route.target handled.request).result =
      .ok { reply with fields := reply.fields.stripHop } := by
    rw [isBackend]
    exact result_forward_of_answered made answered fits
  refine ⟨(refusal?_eq_none_iff found).mpr ⟨_, result⟩, ?_⟩
  rw [answer_of_route found, routed, result]
  rfl

/-! What is counted for one request. -/

theorem count_request (handled : Handled) (method : String) (status : Nat)
    (host : String) :
    handled.answer.events.count (.request method status host) =
      if handled.request.method = method ∧
          handled.answer.response.status = status ∧ handled.host = host then 1
      else 0 := by
  rw [events_answer, requestEvents]
  cases handled.refusal? <;> simp [List.count_cons]

theorem count_duration (handled : Handled) (host : String) :
    handled.answer.events.count (.duration host) =
      if handled.host = host then 1 else 0 := by
  rw [events_answer, requestEvents]
  cases handled.refusal? <;> simp [List.count_cons]

theorem count_refusal (handled : Handled) (kind : String) :
    handled.answer.events.count (.refusal kind) =
      if handled.refusal?.map Refusal.kind = some kind then 1 else 0 := by
  rw [events_answer, requestEvents]
  cases handled.refusal? <;> simp [List.count_cons]

/-! Files that cannot be opened. -/

theorem exchange_eq_unreadable_iff {around : Surroundings}
    {target : Site.Target} {request : Request} {reason : String} :
    (exchange around target request).result = .error (.unreadable reason) ↔
      ∃ root, target = .files root ∧
        Files.serve around.tree root request.method request.target.path =
          .error (.unreadable reason) := by
  cases target with
  | backend backend =>
      simp only [reduceCtorEq, false_and, exists_false, iff_false]
      intro refused
      rcases refusesBackend_of_forward refused with ⟨_, other⟩ | ⟨_, other⟩
      · contradiction
      · contradiction
  | files root => simp [exchange]

theorem eq_unreadable_of_kind {refusal : Refusal} (kind : refusal.kind = "io") :
    ∃ reason, refusal = .unreadable reason := by
  cases refusal with
  | unreadable reason => exact ⟨reason, rfl⟩
  | _ => simp [Refusal.kind] at kind

/-- What is counted as a fault of the system is a request for a file of a site
that the system does not open. -/
theorem refusal?_kind_io_iff :
    handled.refusal?.map Refusal.kind = some "io" ↔
      ∃ route root reason, handled.route? = some route ∧
        route.target = .files root ∧
        Files.serve handled.around.tree root handled.request.method
          handled.request.target.path = .error (.unreadable reason) := by
  cases found : handled.route? with
  | none => simp [refusal?, found, Refusal.kind]
  | some route =>
      simp only [Option.map_eq_some_iff, refusal?_eq_some_iff found,
        Option.some.injEq]
      constructor
      · intro counted
        obtain ⟨refusal, refused, kind⟩ := counted
        obtain ⟨reason, rfl⟩ := eq_unreadable_of_kind kind
        obtain ⟨root, isFiles, refused⟩ :=
          exchange_eq_unreadable_iff.mp refused
        exact ⟨route, root, reason, rfl, isFiles, refused⟩
      · intro unopened
        obtain ⟨_, root, reason, rfl, isFiles, refused⟩ := unopened
        exact ⟨.unreadable reason,
          exchange_eq_unreadable_iff.mpr ⟨root, isFiles, refused⟩, rfl⟩

/-- The same request when a location has a fault besides. -/
def withFault (handled : Handled) (location : Files.Location)
    (fault : Files.OpenFault) : Handled :=
  { handled with
    around :=
      { handled.around with
        tree := handled.around.tree.withFault location fault } }

/-- Any file that a site answers with can have a fault of the system.  The
site's rules then change the refusal that tells it, and it is counted. -/
theorem answer_withFault {route : Route} {root : Files.Path}
    (found : handled.route? = some route) (isFiles : route.target = .files root)
    (served : handled.refusal? = none) :
    ∃ finish, ∀ reason,
      let faulty := handled.withFault finish (.system reason)
      faulty.refusal? = some (.unreadable reason) ∧
        faulty.answer.response =
          (Refusal.unreadable reason).response.applyRules route.rules ∧
        faulty.answer.events.count (.refusal "io") = 1 := by
  obtain ⟨response, result⟩ := (refusal?_eq_none_iff found).mp served
  rw [isFiles] at result
  obtain ⟨_, _, finish, _, _, _, refused⟩ := Files.serve_withFault result
  refine ⟨finish, fun reason => ?_⟩
  have same : (handled.withFault finish (.system reason)).route? = some route :=
    found
  have isRefused : (handled.withFault finish (.system reason)).refusal? =
      some (.unreadable reason) :=
    (refusal?_eq_some_iff same).mpr (exchange_eq_unreadable_iff.mpr
      ⟨root, isFiles, refused (.system reason)⟩)
  refine ⟨isRefused, ?_, ?_⟩
  · rw [response_of_refusal isRefused, rulesFor_of_route same]
  · rw [count_refusal, isRefused]
    rfl

end Handled

end Proxy

end VirtualHosts
