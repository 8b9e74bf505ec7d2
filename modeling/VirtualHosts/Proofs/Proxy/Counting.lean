import Mathlib
import VirtualHosts.Proofs.Text.Cuts
import VirtualHosts.Proofs.Text.Digits
import VirtualHosts.Proxy.Event

/-!
Numbers of events.  Each metric is shown with its labels in one text, and two
events are shown by the same text only if they are the same, as long as no
method has a comma.
-/

namespace VirtualHosts

/-! Counting under keys. -/

section Keys

variable {α β : Type} [DecidableEq β]

theorem hasFiniteSupport_countP (key? : α → Option β) (items : List α) :
    Function.HasFiniteSupport fun key =>
      items.countP fun item => key? item = some key := by
  apply (List.finite_toSet (items.filterMap key?)).subset
  intro key counted
  obtain ⟨item, member, isKey⟩ :=
    List.countP_pos_iff.mp (Nat.pos_of_ne_zero counted)
  exact List.mem_filterMap.mpr ⟨item, member, of_decide_eq_true isKey⟩

/-- All that has a key is counted under one. -/
theorem finsum_countP (key? : α → Option β) (items : List α) :
    ∑ᶠ key, items.countP (fun item => key? item = some key) =
      items.countP fun item => (key? item).isSome := by
  induction items with
  | nil => simp
  | cons item rest ih =>
      have alone : ∑ᶠ key, (if key? item = some key then 1 else 0) =
          if (key? item).isSome then 1 else 0 := by
        cases found : key? item with
        | none => simp
        | some own =>
            rw [finsum_eq_single _ own]
            · simp
            · intro key other
              simp [other.symm]
      simp only [List.countP_cons, decide_eq_true_eq]
      rw [finsum_add_distrib, ih, alone]
      · exact hasFiniteSupport_countP key? rest
      · have single := hasFiniteSupport_countP key? [item]
        simpa only [List.countP_cons, List.countP_nil, Nat.zero_add,
          decide_eq_true_eq] using single

end Keys

namespace Proxy

open VirtualHosts.Text

/-- The number that is shown for a metric. -/
def counted (events : List Event) (metric : String) : Nat :=
  ((tally events).lookup metric).getD 0

theorem lookup_map_pair {α : Type} (f : String → α) (keys : List String)
    (key : String) :
    (keys.map fun key => (key, f key)).lookup key =
      if key ∈ keys then some (f key) else none := by
  induction keys with
  | nil => rfl
  | cons first rest ih =>
      rw [List.map_cons, List.lookup_cons, ih]
      by_cases same : key = first
      · simp [same]
      · simp [same, beq_false_of_ne same]

theorem counted_eq_count (events : List Event) (metric : String) :
    counted events metric = (events.map Event.text).count metric := by
  rw [counted, tally]
  simp only [lookup_map_pair, List.mem_eraseDups]
  split
  · rfl
  · rename_i absent
    rw [List.count_eq_zero.mpr absent]
    rfl

theorem counted_append (events more : List Event) (metric : String) :
    counted (events ++ more) metric =
      counted events metric + counted more metric := by
  rw [counted_eq_count, counted_eq_count, counted_eq_count, List.map_append,
    List.count_append]

/-! Texts of metrics. -/

theorem eq_of_append_sep {sep : Char} {before after before' after' : List Char}
    (absent : sep ∉ after) (absent' : sep ∉ after')
    (same : before ++ sep :: after = before' ++ sep :: after') :
    before = before' ∧ after = after' := by
  have cut := cutLast?_append before absent
  rw [same, cutLast?_append before' absent'] at cut
  cases cut
  exact ⟨rfl, rfl⟩

def pairText (label : String × String) : List Char :=
  label.1.toList ++ '=' :: label.2.toList

theorem pairText_inj {name value other : String} :
    pairText (name, value) = pairText (name, other) ↔ value = other := by
  simp [pairText, String.toList_inj]

/-- What stands between the braces. -/
def pairsText (labels : List (String × String)) : List Char :=
  [','].intercalate (labels.map pairText)

theorem pairsText_three (first second third : String × String) :
    pairsText [first, second, third] =
      (pairText first ++ ',' :: pairText second) ++ ',' :: pairText third := by
  simp [pairsText, List.intercalate]

theorem pairsText_one (label : String × String) :
    pairsText [label] = pairText label := by
  simp [pairsText, List.intercalate]

theorem labelled_eq (metric : String) (labels : List (String × String)) :
    labelled metric labels =
      metric ++ "\x7b" ++ String.intercalate ","
        (labels.map fun label => label.1 ++ "=" ++ label.2) ++ "\x7d" := rfl

theorem toList_labelled (metric : String) (labels : List (String × String)) :
    (labelled metric labels).toList =
      metric.toList ++ '\x7b' :: (pairsText labels ++ ['\x7d']) := by
  have pairs : pairText = fun label : String × String =>
      label.1.toList ++ '=' :: label.2.toList := rfl
  simp [labelled_eq, String.toList_intercalate, Function.comp_def, pairs,
    pairsText]

theorem labelled_inj {metric other : String}
    {labels others : List (String × String)}
    (bare : '\x7b' ∉ metric.toList) (bare' : '\x7b' ∉ other.toList)
    (same : labelled metric labels = labelled other others) :
    metric = other ∧ pairsText labels = pairsText others := by
  have cut := congrArg (cutFirst? '\x7b') (congrArg String.toList same)
  rw [toList_labelled, toList_labelled, cutFirst?_append bare,
    cutFirst?_append bare'] at cut
  simp only [Option.some.injEq, Prod.mk.injEq, List.append_cancel_right_eq,
    String.toList_inj] at cut
  exact cut

theorem ReloadOutcome.text_inj : Function.Injective ReloadOutcome.text := by
  intro outcome other same
  cases outcome <;> cases other <;> simp [text] at same ⊢

namespace Event

def metric : Event → String
  | .request _ _ _ => "proxy_requests_total"
  | .duration _ => "proxy_request_duration_seconds"
  | .refusal _ => "proxy_request_errors_total"
  | .reload _ => "proxy_route_reloads_total"

def labels : Event → List (String × String)
  | .request method status host =>
      [("host", host), ("method", method), ("status", decimal status)]
  | .duration host => [("host", host)]
  | .refusal kind => [("kind", kind)]
  | .reload outcome => [("outcome", outcome.text)]

theorem text_eq_labelled (event : Event) :
    event.text = labelled event.metric event.labels := by
  cases event <;> rfl

theorem bare_metric (event : Event) : '\x7b' ∉ event.metric.toList := by
  cases event with
  | request => simp [metric]
  | duration => simp [metric]
  | refusal => simp [metric]
  | reload => simp [metric]

/-- A method is a token, and a token has no comma. -/
def IsReadable : Event → Prop
  | .request method _ _ => ',' ∉ method.toList
  | _ => True

theorem comma_not_mem_status (status : Nat) :
    ',' ∉ pairText ("status", decimal status) := by
  have digits := not_mem_of_all (all_isDigit_decimal status) ',' rfl
  simp [pairText, digits]

theorem comma_not_mem_method {method : String} (readable : ',' ∉ method.toList) :
    ',' ∉ pairText ("method", method) := by
  simp [pairText, readable]

/-- Of a request, the status stands after the last comma and the method after
the one before it, so the host may hold any text. -/
theorem request_inj {method method' host host' : String} {status status' : Nat}
    (readable : ',' ∉ method.toList) (readable' : ',' ∉ method'.toList)
    (same : pairsText (request method status host).labels =
      pairsText (request method' status' host').labels) :
    request method status host = request method' status' host' := by
  simp only [labels, pairsText_three] at same
  obtain ⟨front, sameStatus⟩ := eq_of_append_sep
    (comma_not_mem_status status) (comma_not_mem_status status') same
  obtain ⟨sameHost, sameMethod⟩ := eq_of_append_sep
    (comma_not_mem_method readable) (comma_not_mem_method readable') front
  rw [pairText_inj] at sameHost sameMethod sameStatus
  rw [sameHost, sameMethod, Nat.repr_inj.mp sameStatus]

theorem text_inj {event other : Event} (readable : event.IsReadable)
    (readable' : other.IsReadable) :
    event.text = other.text ↔ event = other := by
  refine ⟨fun same => ?_, fun same => by rw [same]⟩
  rw [text_eq_labelled, text_eq_labelled] at same
  obtain ⟨sameMetric, sameLabels⟩ :=
    labelled_inj event.bare_metric other.bare_metric same
  cases event with
  | request method status host =>
      cases other with
      | request => exact request_inj readable readable' sameLabels
      | _ => simp [metric] at sameMetric
  | duration host =>
      cases other with
      | duration other =>
          rw [labels, labels, pairsText_one, pairsText_one,
            pairText_inj] at sameLabels
          rw [sameLabels]
      | _ => simp [metric] at sameMetric
  | refusal kind =>
      cases other with
      | refusal other =>
          rw [labels, labels, pairsText_one, pairsText_one,
            pairText_inj] at sameLabels
          rw [sameLabels]
      | _ => simp [metric] at sameMetric
  | reload outcome =>
      cases other with
      | reload other =>
          rw [labels, labels, pairsText_one, pairsText_one,
            pairText_inj] at sameLabels
          rw [ReloadOutcome.text_inj sameLabels]
      | _ => simp [metric] at sameMetric

end Event

/-- What is shown for an event is how often it happened. -/
theorem counted_text {events : List Event}
    (readable : ∀ event ∈ events, event.IsReadable) {event : Event}
    (readable' : event.IsReadable) :
    counted events event.text = events.count event := by
  rw [counted_eq_count, List.count, List.countP_map, List.count]
  apply List.countP_congr
  intro other member
  simp [Event.text_inj (readable other member) readable']

end Proxy

end VirtualHosts
