import VirtualHosts.Header.Name
import VirtualHosts.Header.Value

/-!
The header fields of a message: a list of names with values, in order.  A name
may occur many times.  What a name has is its list of values, and each
operation is described by what it does to those lists.
-/

namespace VirtualHosts.Header

structure Fields where
  entries : List (Name × Value)
  deriving DecidableEq

namespace Fields

def empty : Fields := ⟨[]⟩

def values (fields : Fields) (name : Name) : List Value :=
  (fields.entries.filter fun entry => entry.1 = name).map (·.2)

def get? (fields : Fields) (name : Name) : Option Value :=
  (fields.values name).head?

def has (fields : Fields) (name : Name) : Bool :=
  (fields.get? name).isSome

def add (fields : Fields) (name : Name) (value : Value) : Fields :=
  ⟨fields.entries ++ [(name, value)]⟩

def erase (fields : Fields) (name : Name) : Fields :=
  ⟨fields.entries.filter fun entry => entry.1 ≠ name⟩

def eraseAll (fields : Fields) (names : List Name) : Fields :=
  ⟨fields.entries.filter fun entry => entry.1 ∉ names⟩

/-- Afterwards `name` has the one value. -/
def set (fields : Fields) (name : Name) (value : Value) : Fields :=
  (fields.erase name).add name value

def names (fields : Fields) : List Name :=
  fields.entries.map (·.1)

@[simp] theorem values_empty (name : Name) : empty.values name = [] := rfl

@[simp] theorem values_add (fields : Fields) (name other : Name)
    (value : Value) :
    (fields.add name value).values other =
      fields.values other ++ if name = other then [value] else [] := by
  by_cases same : name = other <;> simp [values, add, List.filter_append, same]

theorem values_eraseAll (fields : Fields) (names : List Name)
    (other : Name) :
    (fields.eraseAll names).values other =
      if other ∈ names then [] else fields.values other := by
  unfold values eraseAll
  rw [List.filter_filter]
  split
  · rename_i member
    rw [List.filter_eq_nil_iff.mpr]
    · rfl
    · rintro ⟨name, value⟩ _
      simp only [Bool.and_eq_true, decide_eq_true_eq, not_and]
      intro same
      simpa [same] using member
  · rename_i absent
    congr 1
    apply List.filter_congr
    rintro ⟨name, value⟩ _
    by_cases same : name = other
    · subst same
      simp [absent]
    · simp [same]

@[simp] theorem values_erase (fields : Fields) (name other : Name) :
    (fields.erase name).values other =
      if other = name then [] else fields.values other := by
  have single : fields.erase name = fields.eraseAll [name] := by
    simp [erase, eraseAll]
  rw [single, values_eraseAll]
  simp

@[simp] theorem values_set (fields : Fields) (name other : Name)
    (value : Value) :
    (fields.set name value).values other =
      if other = name then [value] else fields.values other := by
  unfold set
  rw [values_add, values_erase]
  by_cases same : other = name
  · simp [same]
  · have different : ¬name = other := fun equal => same equal.symm
    simp [same, different]

theorem set_empty (name : Name) (value : Value) :
    empty.set name value = empty.add name value := rfl

end Fields

end VirtualHosts.Header
