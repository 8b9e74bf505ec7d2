import Mathlib
import VirtualHosts.Host.Slice
import VirtualHosts.Proofs.Bind
import VirtualHosts.Proofs.Host.Stability

/-!
How a host is spelled.  A text has a key exactly if it is a host without a
colon or one in brackets, perhaps with a port, and cutting it at offsets never
misses the place between two characters.
-/

namespace VirtualHosts.Host

open VirtualHosts.Text

def IsPort (port : List Char) : Prop :=
  port = [] ∨ ∃ digits, port = ':' :: digits ∧ ∀ c ∈ digits, c.isDigit = true

/-- How a text without blanks around it spells a key. -/
inductive Spells (t : List Char) : List Char → Prop
  | plain {host core port : List Char} (shape : t = host ++ port)
      (noColon : ':' ∉ host) (unbracketed : host.head? ≠ some '[')
      (isPort : IsPort port)
      (dotless : host = core ++ ['.'] ∨
        (host = core ∧ core.getLast? ≠ some '.'))
      (nonempty : core ≠ []) : Spells t (lower core)
  | bracketed {inner port : List Char}
      (shape : t = '[' :: inner ++ ']' :: port) (closed : ']' ∉ inner)
      (isPort : IsPort port) : Spells t (lower ('[' :: inner ++ [']']))

theorem isPortSuffix_iff {port : List Char} :
    isPortSuffix port = true ↔ IsPort port := by
  cases port with
  | nil => simp [isPortSuffix, IsPort]
  | cons c digits =>
      simp only [isPortSuffix, IsPort, Bool.and_eq_true, decide_eq_true_eq,
        List.all_eq_true, reduceCtorEq, List.cons.injEq, false_or]
      constructor
      · rintro ⟨rfl, digital⟩
        exact ⟨digits, ⟨rfl, rfl⟩, digital⟩
      · rintro ⟨_, ⟨rfl, rfl⟩, digital⟩
        exact ⟨rfl, digital⟩

theorem spells_of_named {t host : List Char} (named : Named t host)
    (nonempty : dropFinal '.' host ≠ []) :
    Spells t (lower (dropFinal '.' host)) := by
  cases named with
  | plain shape suffix isPlain =>
      exact .plain shape isPlain.noColon isPlain.unbracketed
        (isPortSuffix_iff.mp suffix) (dropFinal_eq_iff.mp rfl) nonempty
  | bracketed shape suffix closed =>
      rw [dropFinal_bracketed]
      exact .bracketed shape closed (isPortSuffix_iff.mp suffix)

theorem Spells.exists_named {t key : List Char} (spells : Spells t key) :
    ∃ host, Named t host ∧ dropFinal '.' host ≠ [] ∧
      key = lower (dropFinal '.' host) := by
  cases spells with
  | plain shape noColon unbracketed isPort dotless nonempty =>
      have core := dropFinal_eq_iff.mpr dotless
      exact ⟨_, .plain shape (isPortSuffix_iff.mpr isPort)
        ⟨noColon, unbracketed⟩, by rwa [core], by rw [core]⟩
  | bracketed shape closed isPort =>
      exact ⟨_, .bracketed shape (isPortSuffix_iff.mpr isPort) closed,
        by rw [dropFinal_bracketed]; simp, by rw [dropFinal_bracketed]⟩

theorem keyOf?_eq_some_iff_spells {s key : List Char} :
    keyOf? s = some key ↔ Spells (trim s) key := by
  rw [keyOf?_eq_some_iff]
  constructor
  · rintro ⟨host, named, nonempty, rfl⟩
    exact spells_of_named named nonempty
  · exact Spells.exists_named

/-! Slices.  The bracket that is found is one byte long, so both slices end
between two characters. -/

theorem keyOf?_eq_bind (s : List Char) :
    keyOf? s = (named? (trim s)).bind keyOfNamed? := by
  rw [keyOf?]
  cases named? (trim s) <;> rfl

theorem bracketedSlice?_eq (inner : List Char) :
    bracketedSlice? inner = .ok (bracketed? inner) := by
  rw [bracketedSlice?, offset?_eq_map, bracketed?]
  cases cut : cutFirst? ']' inner with
  | none => rfl
  | some parts =>
      obtain ⟨address, suffix⟩ := parts
      obtain ⟨rfl, _⟩ := cutFirst?_sound cut
      have finish : size (address ++ [']']) = size address + 1 := by
        rw [size_append]
        rfl
      have whole : size ('[' :: address ++ [']']) = size address + 2 := by
        rw [List.cons_append, size_cons, finish]
        exact Nat.add_comm _ _
      have back : sliceFrom (size address + 1) (address ++ ']' :: suffix) =
          .ok suffix := by
        have cutThere := sliceFrom_append (address ++ [']']) suffix
        rwa [finish, List.append_assoc] at cutThere
      have front : sliceTo (size address + 2)
          ('[' :: (address ++ ']' :: suffix)) = .ok ('[' :: address ++ [']']) := by
        have cutThere := sliceTo_append ('[' :: address ++ [']']) suffix
        rwa [whole, List.append_assoc] at cutThere
      simp only [Option.map_some, back, front, ok_bind]
      split <;> rfl

theorem namedSlice?_eq (s : List Char) :
    namedSlice? s = .ok (named? s) := by
  by_cases bracket : s.head? = some '['
  · obtain ⟨inner, rfl⟩ := List.head?_eq_some_iff.mp bracket
    exact bracketedSlice?_eq inner
  · rw [named?_unbracketed bracket, namedSlice?]
    intro inner shape
    simp [shape] at bracket

theorem keySlice?_eq (raw : String) : keySlice? raw = .ok (key? raw) := by
  rw [keySlice?, namedSlice?_eq, key?, keyOf?_eq_bind]
  rfl

/-- A text has a key exactly if, without the blanks around it, it spells a
host and perhaps a port; and the offsets that its key is cut at are always
between two characters. -/
theorem key?_spells (raw : String) :
    keySlice? raw = .ok (key? raw) ∧
    (∀ key, key? raw = some key ↔
      ∃ t, Trimmed raw.toList t ∧ Spells t key.toList) ∧
    (key? raw = none ↔ ¬∃ t key, Trimmed raw.toList t ∧ Spells t key) := by
  have found (key : String) : key? raw = some key ↔
      ∃ t, Trimmed raw.toList t ∧ Spells t key.toList := by
    rw [key?_eq_some_iff, keyOf?_eq_some_iff_spells]
    simp [trimmed_iff]
  refine ⟨keySlice?_eq raw, found, ?_⟩
  rw [Option.eq_none_iff_forall_ne_some]
  constructor
  · rintro absent ⟨t, key, trimmed, spells⟩
    apply absent (String.ofList key)
    exact (found _).mpr ⟨t, trimmed, by rwa [String.toList_ofList]⟩
  · intro absent key read
    obtain ⟨t, trimmed, spells⟩ := (found key).mp read
    exact absent ⟨t, key.toList, trimmed, spells⟩

end VirtualHosts.Host
