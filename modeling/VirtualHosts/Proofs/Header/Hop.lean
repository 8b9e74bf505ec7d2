import Mathlib
import VirtualHosts.Header.Hop

/-!
The names that describe one hop of a message: nine fixed ones, and those that
its `Connection` fields list.  Without them the other names keep their values.
-/

namespace VirtualHosts.Header

open VirtualHosts.Text

/-- One of the pieces between the commas, without the blanks around it, is the
name. -/
def Value.Lists (value : Value) (name : Name) : Prop :=
  ∃ text, value.text? = some text ∧
    ∃ piece ∈ pieces ',' text.toList,
      Name.ofText? (String.ofList (trim piece)) = some name

theorem mem_listedNames_iff {value : Value} {name : Name} :
    name ∈ listedNames value ↔ value.Lists name := by
  unfold listedNames Value.Lists
  cases value.text? with
  | none => simp
  | some text => simp [List.mem_filterMap]

example : hopNames.map Name.text =
    ["connection", "keep-alive", "transfer-encoding", "te", "trailer",
      "upgrade", "proxy-authorization", "proxy-authenticate",
      "proxy-connection"] := rfl

namespace Fields

/-- A `Connection` field lists the name. -/
def Lists (fields : Fields) (name : Name) : Prop :=
  ∃ value ∈ fields.values .connection, value.Lists name

def IsHop (fields : Fields) (name : Name) : Prop :=
  name ∈ hopNames ∨ fields.Lists name

variable {fields : Fields} {name : Name}

theorem mem_connectionNames_iff :
    name ∈ fields.connectionNames ↔ fields.Lists name := by
  simp only [connectionNames, List.mem_flatMap, mem_listedNames_iff, Lists]

instance : Decidable (fields.Lists name) :=
  decidable_of_iff _ mem_connectionNames_iff

theorem mem_hop_iff : name ∈ fields.hop ↔ fields.IsHop name := by
  rw [hop, List.mem_append, or_comm, mem_connectionNames_iff, IsHop]

theorem values_stripHop_of_isHop (isHop : fields.IsHop name) :
    fields.stripHop.values name = [] := by
  rw [values_stripHop, if_pos (mem_hop_iff.mpr isHop)]

theorem values_stripHop_of_not_isHop (kept : ¬fields.IsHop name) :
    fields.stripHop.values name = fields.values name := by
  rw [values_stripHop, if_neg fun member => kept (mem_hop_iff.mp member)]

/-- What is not a fixed name is lost only if it is listed. -/
theorem values_stripHop_of_free (free : name ∉ hopNames) :
    fields.stripHop.values name =
      if fields.Lists name then [] else fields.values name := by
  rw [values_stripHop]
  simp only [mem_hop_iff, IsHop, free, false_or]

theorem has_iff_values_ne_nil :
    fields.has name = true ↔ fields.values name ≠ [] := by
  rw [has, get?]
  simp [List.head?_eq_none_iff, Option.isSome_iff_ne_none]

end Fields

end VirtualHosts.Header
