import Mathlib
import VirtualHosts.Proofs.Proxy.Counting
import VirtualHosts.Proofs.Proxy.Handled
import VirtualHosts.Service.Server

/-!
What a server has counted after any run: every request once, under its method,
its final status and the host of its route, and every refusal once more, under
its kind.  What a backend answers itself is never counted as a refusal.
-/

namespace VirtualHosts

open VirtualHosts.Http

namespace Service.Server

open VirtualHosts.Proxy

/-- The request of a step, if it is one, and what the server has for it. -/
def handled? (server : Server) : Step → Option Handled
  | .request request => some ⟨server.around, server.live.current.table, request⟩
  | _ => none

def handled (server : Server) : List Step → List Handled
  | [] => []
  | step :: rest =>
      (server.handled? step).toList ++ (server.step step).handled rest

/-- A step counts what its request counts; without one, it counts reloads at
most. -/
theorem exists_events_step (server : Server) (step : Step) :
    ∃ more, (server.step step).events = server.events ++ more ∧
      match server.handled? step with
      | some handled => more = handled.answer.events
      | none => ∀ event ∈ more, ∃ outcome, event = .reload outcome := by
  cases step with
  | request request => exact ⟨_, rfl, rfl⟩
  | replace table => exact ⟨[], by simp [Server.step, replace], by simp [handled?]⟩
  | reload table => exact ⟨[_], rfl, by simp [handled?]⟩
  | change around => exact ⟨[], by simp [Server.step], by simp [handled?]⟩

theorem count_step {event : Event} (counts : ∀ outcome, event ≠ .reload outcome)
    (server : Server) (step : Step) :
    (server.step step).events.count event =
      server.events.count event +
        ((server.handled? step).toList.map
          fun handled => handled.answer.events.count event).sum := by
  obtain ⟨more, events, isMore⟩ := exists_events_step server step
  rw [events, List.count_append]
  cases found : server.handled? step with
  | none =>
      rw [found] at isMore
      have absent : event ∉ more := by
        intro member
        obtain ⟨outcome, same⟩ := isMore event member
        exact counts outcome same
      simp [List.count_eq_zero.mpr absent]
  | some handled =>
      rw [found] at isMore
      simp [isMore]

/-- What is counted once for a request of some sort is counted as often as
there are requests of that sort. -/
theorem count_run {event : Event} (counts : ∀ outcome, event ≠ .reload outcome)
    {sort : Handled → Prop} [DecidablePred sort]
    (once : ∀ handled : Handled, handled.answer.events.count event =
      if sort handled then 1 else 0) (server : Server) (steps : List Step) :
    (server.run steps).events.count event =
      server.events.count event +
        (server.handled steps).countP fun handled => sort handled := by
  induction steps generalizing server with
  | nil => simp [run, handled]
  | cons step rest ih =>
      have first := count_step counts server step
      calc (server.run (step :: rest)).events.count event
          = ((server.step step).run rest).events.count event := rfl
        _ = (server.step step).events.count event +
              ((server.step step).handled rest).countP
                fun handled => sort handled := ih _
        _ = server.events.count event +
              (server.handled (step :: rest)).countP
                fun handled => sort handled := by
            rw [first, handled, List.countP_append]
            cases server.handled? step with
            | none => simp
            | some handled => simp [once, Nat.add_assoc]

/-- A run counts for its requests, and besides them only reloads. -/
theorem mem_events_run {server : Server} {steps : List Step} {event : Event}
    (member : event ∈ (server.run steps).events) :
    event ∈ server.events ∨ (∃ outcome, event = .reload outcome) ∨
      ∃ handled ∈ server.handled steps, event ∈ handled.answer.events := by
  induction steps generalizing server with
  | nil => exact Or.inl member
  | cons step rest ih =>
      rcases ih member with before | reload | ⟨handled, later, counted⟩
      · obtain ⟨more, events, isMore⟩ := exists_events_step server step
        rw [events] at before
        rcases List.mem_append.mp before with before | added
        · exact Or.inl before
        · cases found : server.handled? step with
          | none =>
              rw [found] at isMore
              exact Or.inr (Or.inl (isMore event added))
          | some handled =>
              rw [found] at isMore
              rw [isMore] at added
              refine Or.inr (Or.inr ⟨handled, ?_, added⟩)
              simp [Server.handled, found]
      · exact Or.inr (Or.inl reload)
      · refine Or.inr (Or.inr ⟨handled, ?_, counted⟩)
        simp [Server.handled, later]

/-- The numbers of events are those of the requests that were answered. -/
structure Accounts (handled : List Handled) (events : List Event) : Prop where
  requests : ∀ method status host,
    events.count (.request method status host) =
      handled.countP fun one => one.request.method = method ∧
        one.answer.response.status = status ∧ one.host = host
  durations : ∀ host, events.count (.duration host) =
    ∑ᶠ labels : String × Nat, events.count (.request labels.1 labels.2 host)
  refusals : ∀ kind, events.count (.refusal kind) =
    handled.countP fun one => one.refusal?.map Refusal.kind = some kind
  refused : ∑ᶠ kind, events.count (.refusal kind) =
    handled.countP fun one => one.refusal?.isSome
  /-- A refused request is answered by its refusal, changed by rules. -/
  answered : ∀ one ∈ handled, ∀ refusal, one.refusal? = some refusal →
    one.answer.response =
      refusal.response.applyRules (rulesFor one.table one.request)
  /-- Any other one is answered by its target, changed by rules. -/
  served : ∀ one ∈ handled, one.refusal? = none →
    ∃ route response, one.route? = some route ∧
      (exchange one.around route.target one.request).result = .ok response ∧
      one.answer.response = response.applyRules route.rules
  /-- What a backend answers itself is not refused. -/
  replied : ∀ one ∈ handled, ∀ route backend out reply,
    one.route? = some route → route.target = .backend backend →
    outbound? backend one.request = some out →
    one.around.network out = .answered reply →
    reply.body.length ≤ one.around.limits.maxBody →
      one.refusal? = none ∧ one.answer.response.status = reply.status
  /-- The number shown for a metric is that of its events. -/
  shown : (∀ one ∈ handled, ',' ∉ one.request.method.toList) →
    ∀ event : Event, event.IsReadable →
      counted events event.text = events.count event

section Runs

variable (around : Surroundings) (table : RouteTable) (steps : List Step)

theorem count_request_run (method : String) (status : Nat) (host : String) :
    ((start around table).run steps).events.count
        (.request method status host) =
      ((start around table).handled steps).countP fun one =>
        one.request.method = method ∧
          one.answer.response.status = status ∧ one.host = host := by
  have counted := count_run (by simp)
    (fun one => one.count_request method status host) (start around table) steps
  exact counted.trans (Nat.zero_add _)

theorem count_duration_run (host : String) :
    ((start around table).run steps).events.count (.duration host) =
      ((start around table).handled steps).countP fun one =>
        one.host = host := by
  have counted := count_run (by simp) (fun one => one.count_duration host)
    (start around table) steps
  exact counted.trans (Nat.zero_add _)

theorem count_refusal_run (kind : String) :
    ((start around table).run steps).events.count (.refusal kind) =
      ((start around table).handled steps).countP fun one =>
        one.refusal?.map Refusal.kind = some kind := by
  have counted := count_run (by simp) (fun one => one.count_refusal kind)
    (start around table) steps
  exact counted.trans (Nat.zero_add _)

open Classical in
/-- Counted as faults of the system are the requests for files of a site that
the system does not open. -/
theorem count_unreadable_run :
    ((start around table).run steps).events.count (.refusal "io") =
      ((start around table).handled steps).countP fun one =>
        ∃ route root reason, one.route? = some route ∧
          route.target = .files root ∧
          Files.serve one.around.tree root one.request.method
            one.request.target.path = .error (.unreadable reason) := by
  rw [count_refusal_run]
  apply List.countP_congr
  intro one _
  simp only [decide_eq_true_iff]
  exact one.refusal?_kind_io_iff

/-- Each timed request is counted under one method and one status. -/
theorem count_duration_eq_finsum (host : String) :
    ((start around table).run steps).events.count (.duration host) =
      ∑ᶠ labels : String × Nat,
        ((start around table).run steps).events.count
          (.request labels.1 labels.2 host) := by
  let labels? (one : Handled) : Option (String × Nat) :=
    if one.host = host then
      some (one.request.method, one.answer.response.status)
    else none
  have isSome (one : Handled) : (labels? one).isSome ↔ one.host = host := by
    simp [labels?]
  have isLabels (one : Handled) (labels : String × Nat) :
      labels? one = some labels ↔ one.request.method = labels.1 ∧
        one.answer.response.status = labels.2 ∧ one.host = host := by
    simp only [labels?, Option.ite_none_right_eq_some, Option.some.injEq,
      Prod.ext_iff]
    tauto
  have timed := finsum_countP labels? ((start around table).handled steps)
  simp only [isLabels] at timed
  rw [count_duration_run]
  simp only [count_request_run]
  rw [timed]
  apply List.countP_congr
  intro one _
  rw [isSome, decide_eq_true_iff]

theorem isReadable_run
    (tokens : ∀ one ∈ (start around table).handled steps,
      ',' ∉ one.request.method.toList) :
    ∀ event ∈ ((start around table).run steps).events, event.IsReadable := by
  intro event member
  rcases mem_events_run member with before | ⟨outcome, rfl⟩ | ⟨one, taken, own⟩
  · contradiction
  · trivial
  · rw [Handled.events_answer] at own
    rcases List.mem_append.mp own with refused | counted
    · obtain ⟨refusal, _, rfl⟩ := List.mem_map.mp refused
      trivial
    · simp only [requestEvents, List.mem_cons, List.not_mem_nil,
        or_false] at counted
      rcases counted with rfl | rfl
      · exact tokens one taken
      · trivial

end Runs

theorem accounts_run (around : Surroundings) (table : RouteTable)
    (steps : List Step) :
    Accounts ((start around table).handled steps)
      ((start around table).run steps).events where
  requests := count_request_run around table steps
  durations := count_duration_eq_finsum around table steps
  refusals := count_refusal_run around table steps
  refused := by
    simp only [count_refusal_run]
    rw [finsum_countP]
    simp
  answered := fun one _ refusal refused => one.response_of_refusal refused
  served := fun one _ unrefused => one.exists_of_no_refusal unrefused
  replied := fun one _ route backend out reply found isBackend made answered
      fits => Handled.refusal?_of_reply found isBackend made answered fits
  shown := fun tokens event readable =>
    counted_text (isReadable_run around table steps tokens) readable

end Service.Server

end VirtualHosts
