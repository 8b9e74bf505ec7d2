import Mathlib
import VirtualHosts.Header.Rule

/-!
What a list of rules leaves of a header name.  The last rule that takes away
the values of the name decides, and only additions after it are kept; rules on
other names do not count.
-/

namespace VirtualHosts.Header

/-- Whether every name has the same values; the order between names is left
open. -/
def Fields.SameValues (first second : Fields) : Prop :=
  ∀ name, first.values name = second.values name

namespace Rule

def name : Rule → Name
  | .set name _ => name
  | .add name _ => name
  | .delete name => name

/-- Whether a rule takes away the values that a name has. -/
def Replaces (name : Name) : Rule → Prop
  | .set other _ => other = name
  | .add _ _ => False
  | .delete other => other = name

def addition? (name : Name) : Rule → Option Value
  | .add other value => if other = name then some value else none
  | _ => none

/-- The values that rules add to a name, in order. -/
def additions (name : Name) (rules : List Rule) : List Value :=
  rules.filterMap (addition? name)

/-- What rules make of a name, by the last of them that takes its values
away. -/
inductive Leaves (name : Name) (rules : List Rule) (values : List Value) :
    List Value → Prop
  | kept (untouched : ∀ rule ∈ rules, ¬rule.Replaces name) :
      Leaves name rules values (values ++ additions name rules)
  | set {front after : List Rule} {value : Value}
      (shape : rules = front ++ .set name value :: after)
      (last : ∀ rule ∈ after, ¬rule.Replaces name) :
      Leaves name rules values (value :: additions name after)
  | deleted {front after : List Rule}
      (shape : rules = front ++ .delete name :: after)
      (last : ∀ rule ∈ after, ¬rule.Replaces name) :
      Leaves name rules values (additions name after)

theorem name_of_replaces {rule : Rule} {name : Name}
    (replaces : rule.Replaces name) : rule.name = name := by
  cases rule with
  | set other value => exact replaces
  | add other value => contradiction
  | delete other => exact replaces

theorem eq_of_replaces {rule : Rule} {name : Name}
    (replaces : rule.Replaces name) :
    (∃ value, rule = .set name value) ∨ rule = .delete name := by
  cases rule with
  | set other value =>
      cases replaces
      exact Or.inl ⟨value, rfl⟩
  | add other value => contradiction
  | delete other =>
      cases replaces
      exact Or.inr rfl

/-! One rule. -/

theorem values_apply_of_replaces {rule : Rule} {name : Name}
    (replaces : rule.Replaces name) (first second : Fields) :
    (rule.apply first).values name = (rule.apply second).values name := by
  rcases eq_of_replaces replaces with ⟨value, rfl⟩ | rfl
  · simp [apply]
  · simp [apply]

theorem values_apply_of_not_replaces {rule : Rule} {name : Name}
    (kept : ¬rule.Replaces name) (fields : Fields) :
    (rule.apply fields).values name =
      fields.values name ++ (addition? name rule).toList := by
  cases rule with
  | set other value =>
      have different : name ≠ other := fun same => kept same.symm
      simp [apply, addition?, different]
  | add other value =>
      rw [apply, Fields.values_add, addition?]
      split <;> rfl
  | delete other =>
      have different : name ≠ other := fun same => kept same.symm
      simp [apply, addition?, different]

theorem values_apply_of_name_ne {rule : Rule} {name : Name}
    (other : rule.name ≠ name) (fields : Fields) :
    (rule.apply fields).values name = fields.values name := by
  have kept : ¬rule.Replaces name :=
    fun replaces => other (name_of_replaces replaces)
  have nothing : addition? name rule = none := by
    cases rule with
    | set => rfl
    | add => exact if_neg other
    | delete => rfl
  simp [values_apply_of_not_replaces kept, nothing]

theorem values_apply_congr (rule : Rule) {name : Name}
    {first second : Fields} (same : first.values name = second.values name) :
    (rule.apply first).values name = (rule.apply second).values name := by
  by_cases replaces : rule.Replaces name
  · exact values_apply_of_replaces replaces first second
  · rw [values_apply_of_not_replaces replaces,
      values_apply_of_not_replaces replaces, same]

/-! Lists of rules. -/

theorem values_applyAll_congr (rules : List Rule) {name : Name}
    {first second : Fields} (same : first.values name = second.values name) :
    (applyAll rules first).values name =
      (applyAll rules second).values name := by
  induction rules generalizing first second with
  | nil => exact same
  | cons rule rules ih =>
      rw [applyAll_cons, applyAll_cons]
      exact ih (rule.values_apply_congr same)

theorem values_applyAll_of_kept {rules : List Rule} {name : Name}
    (untouched : ∀ rule ∈ rules, ¬rule.Replaces name) (fields : Fields) :
    (applyAll rules fields).values name =
      fields.values name ++ additions name rules := by
  induction rules generalizing fields with
  | nil => simp [additions]
  | cons rule rules ih =>
      rw [List.forall_mem_cons] at untouched
      rw [applyAll_cons, ih untouched.2,
        values_apply_of_not_replaces untouched.1, additions, additions,
        List.filterMap_cons, List.append_assoc]
      cases addition? name rule <;> rfl

theorem values_applyAll_of_name_ne {rules : List Rule} {name : Name}
    (others : ∀ rule ∈ rules, rule.name ≠ name) (fields : Fields) :
    (applyAll rules fields).values name = fields.values name := by
  induction rules generalizing fields with
  | nil => rfl
  | cons rule rules ih =>
      rw [List.forall_mem_cons] at others
      rw [applyAll_cons, ih others.2, values_apply_of_name_ne others.1]

/-- Rules on other names can be left out. -/
theorem values_applyAll_filter (rules : List Rule) (fields : Fields)
    (name : Name) :
    (applyAll (rules.filter fun rule => rule.name = name) fields).values name =
      (applyAll rules fields).values name := by
  induction rules generalizing fields with
  | nil => rfl
  | cons rule rules ih =>
      rw [applyAll_cons, List.filter_cons]
      split
      · rw [applyAll_cons, ih]
      · rename_i other
        rw [ih]
        -- The rule that was left out changes only values of another name.
        apply values_applyAll_congr
        exact (values_apply_of_name_ne (by simpa using other) fields).symm

theorem exists_last_replaces {rules : List Rule} {name : Name}
    (some : ∃ rule ∈ rules, rule.Replaces name) :
    ∃ front rule after, rules = front ++ rule :: after ∧
      rule.Replaces name ∧ ∀ later ∈ after, ¬later.Replaces name := by
  induction rules with
  | nil => simp at some
  | cons first rules ih =>
      by_cases later : ∃ rule ∈ rules, rule.Replaces name
      · obtain ⟨front, rule, after, shape, replaces, last⟩ := ih later
        exact ⟨first :: front, rule, after, by rw [shape]; rfl, replaces, last⟩
      · push Not at later
        obtain ⟨rule, member, replaces⟩ := some
        rcases List.mem_cons.mp member with rfl | member
        · exact ⟨[], rule, rules, rfl, replaces, later⟩
        · exact absurd replaces (later rule member)

theorem values_applyAll_append_cons (front : List Rule) (rule : Rule)
    {after : List Rule} {name : Name}
    (last : ∀ later ∈ after, ¬later.Replaces name) (fields : Fields) :
    (applyAll (front ++ rule :: after) fields).values name =
      (rule.apply (applyAll front fields)).values name ++
        additions name after := by
  rw [applyAll_append, applyAll_cons, values_applyAll_of_kept last]

/-- Once the values of a name are taken away it does not matter what they
were. -/
theorem values_applyAll_of_replaced {rules : List Rule} {name : Name}
    (replaced : ∃ rule ∈ rules, rule.Replaces name) (first second : Fields) :
    (applyAll rules first).values name =
      (applyAll rules second).values name := by
  obtain ⟨front, rule, after, rfl, replaces, last⟩ :=
    exists_last_replaces replaced
  rw [values_applyAll_append_cons front rule last,
    values_applyAll_append_cons front rule last]
  rw [values_apply_of_replaces replaces]

theorem leaves_applyAll (rules : List Rule) (fields : Fields) (name : Name) :
    Leaves name rules (fields.values name)
      ((applyAll rules fields).values name) := by
  by_cases replaced : ∃ rule ∈ rules, rule.Replaces name
  · obtain ⟨front, rule, after, shape, replaces, last⟩ :=
      exists_last_replaces replaced
    rw [shape, values_applyAll_append_cons front rule last]
    rcases eq_of_replaces replaces with ⟨value, rfl⟩ | rfl
    · simpa [apply] using Leaves.set rfl last
    · simpa [apply] using Leaves.deleted rfl last
  · push Not at replaced
    rw [values_applyAll_of_kept replaced]
    exact .kept replaced

theorem Leaves.eq_values {rules : List Rule} {fields : Fields} {name : Name}
    {final : List Value} (leaves : Leaves name rules (fields.values name) final) :
    (applyAll rules fields).values name = final := by
  cases leaves with
  | kept untouched => exact values_applyAll_of_kept untouched fields
  | set shape last =>
      rw [shape, values_applyAll_append_cons _ _ last]
      simp [apply]
  | deleted shape last =>
      rw [shape, values_applyAll_append_cons _ _ last]
      simp [apply]

/-- The order of rules matters for each name alone. -/
theorem sameValues_of_filter_eq {first second : List Rule}
    (same : ∀ name, (first.filter fun rule => rule.name = name) =
      second.filter fun rule => rule.name = name) (fields : Fields) :
    (applyAll first fields).SameValues (applyAll second fields) := by
  intro name
  rw [← values_applyAll_filter first, ← values_applyAll_filter second, same]

theorem filter_append_comm {first second : List Rule}
    (apart : ∀ one ∈ first, ∀ other ∈ second, one.name ≠ other.name)
    (name : Name) :
    ((first ++ second).filter fun rule => rule.name = name) =
      (second ++ first).filter fun rule => rule.name = name := by
  rw [List.filter_append, List.filter_append]
  by_cases named : ∃ rule ∈ first, rule.name = name
  · obtain ⟨rule, member, rfl⟩ := named
    have none : (second.filter fun other => other.name = rule.name) = [] := by
      simpa [List.filter_eq_nil_iff] using
        fun other inside => (apart rule member other inside).symm
    rw [none, List.append_nil, List.nil_append]
  · have none : (first.filter fun rule => rule.name = name) = [] := by
      simpa [List.filter_eq_nil_iff] using named
    rw [none, List.append_nil, List.nil_append]

theorem sameValues_applyAll_comm (front : List Rule)
    {first second : List Rule}
    (apart : ∀ one ∈ first, ∀ other ∈ second, one.name ≠ other.name)
    (after : List Rule) (fields : Fields) :
    (applyAll (front ++ (first ++ second) ++ after) fields).SameValues
      (applyAll (front ++ (second ++ first) ++ after) fields) := by
  apply sameValues_of_filter_eq
  intro name
  simp only [List.filter_append front, List.filter_append _ after,
    filter_append_comm apart]

theorem sameValues_applyAll_twice {rules : List Rule}
    (addless : ∀ name value, Rule.add name value ∉ rules) (fields : Fields) :
    (applyAll rules (applyAll rules fields)).SameValues
      (applyAll rules fields) := by
  intro name
  by_cases replaced : ∃ rule ∈ rules, rule.Replaces name
  · exact values_applyAll_of_replaced replaced _ _
  · push Not at replaced
    have nothing : additions name rules = [] := by
      rw [additions, List.filterMap_eq_nil_iff]
      intro rule member
      cases rule with
      | set => rfl
      | add other value => exact absurd member (addless other value)
      | delete => rfl
    rw [values_applyAll_of_kept replaced, nothing, List.append_nil]

/-- What a name has after rules is what the last rule that takes its values
away leaves, or else what it had, and the values added since.  So a name that
no rule is about keeps its values, rules on different names may change places,
lists of rules are applied one after another, and rules that add nothing may
be applied again. -/
theorem applyAll_leaves_iff (rules : List Rule) (fields : Fields) :
    (∀ name final, (applyAll rules fields).values name = final ↔
      Leaves name rules (fields.values name) final) ∧
    (∀ name, (∀ rule ∈ rules, rule.name ≠ name) →
      (applyAll rules fields).values name = fields.values name) ∧
    (∀ first second after,
      (∀ one ∈ first, ∀ other ∈ second, one.name ≠ other.name) →
        (applyAll (rules ++ (first ++ second) ++ after) fields).SameValues
          (applyAll (rules ++ (second ++ first) ++ after) fields)) ∧
    (∀ more, applyAll (rules ++ more) fields =
      applyAll more (applyAll rules fields)) ∧
    ((∀ name value, Rule.add name value ∉ rules) →
      (applyAll rules (applyAll rules fields)).SameValues
        (applyAll rules fields)) := by
  refine ⟨?_, ?_, ?_, ?_, ?_⟩
  · intro name final
    constructor
    · rintro rfl
      exact leaves_applyAll rules fields name
    · exact Leaves.eq_values
  · intro name others
    exact values_applyAll_of_name_ne others fields
  · intro first second after apart
    exact sameValues_applyAll_comm rules apart after fields
  · intro more
    exact applyAll_append rules more fields
  · intro addless
    exact sameValues_applyAll_twice addless fields

end Rule

end VirtualHosts.Header
