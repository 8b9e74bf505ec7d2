import Mathlib
import VirtualHosts.Host.Key
import VirtualHosts.Proofs.Text.Cuts
import VirtualHosts.Proofs.Text.LowerCase

/-!
The texts that have a host key: a host without a colon, or one in brackets,
and perhaps a port after it.
-/

namespace VirtualHosts.Host

open VirtualHosts.Text

structure IsPlain (host : List Char) : Prop where
  noColon : ':' ∉ host
  unbracketed : host.head? ≠ some '['

/-- How a text without blanks around it names a host. -/
inductive Named (s : List Char) : List Char → Prop
  | plain {host port : List Char} (shape : s = host ++ port)
      (suffix : isPortSuffix port = true) (isPlain : IsPlain host) :
      Named s host
  | bracketed {inner port : List Char}
      (shape : s = '[' :: (inner ++ ']' :: port))
      (suffix : isPortSuffix port = true) (closed : ']' ∉ inner) :
      Named s ('[' :: inner ++ [']'])

theorem named?_unbracketed {s : List Char}
    (unbracketed : s.head? ≠ some '[') : named? s = plain? s := by
  unfold named?
  split
  · simp at unbracketed
  · rfl

theorem isPortSuffix_cases {port : List Char}
    (suffix : isPortSuffix port = true) :
    port = [] ∨
      ∃ digits, port = ':' :: digits ∧ digits.all Char.isDigit = true := by
  cases port with
  | nil => exact Or.inl rfl
  | cons c digits =>
      simp only [isPortSuffix, Bool.and_eq_true, decide_eq_true_eq] at suffix
      obtain ⟨rfl, digital⟩ := suffix
      exact Or.inr ⟨digits, rfl, digital⟩

theorem named_of_bracketed? {inner host : List Char}
    (found : bracketed? inner = some host) : Named ('[' :: inner) host := by
  rw [bracketed?] at found
  split at found
  · simp at found
  · rename_i address suffix cut
    split at found
    · rename_i isSuffix
      simp only [Option.some.injEq] at found
      obtain ⟨shape, closed⟩ := cutFirst?_sound cut
      subst found
      exact .bracketed (by rw [shape]) isSuffix closed
    · simp at found

theorem named_of_plain? {s host : List Char}
    (unbracketed : s.head? ≠ some '[') (found : plain? s = some host) :
    Named s host := by
  rw [plain?] at found
  split at found
  · rename_i cut
    simp only [Option.some.injEq] at found
    subst found
    exact .plain (List.append_nil s).symm rfl
      ⟨not_mem_of_cutLast?_eq_none cut, unbracketed⟩
  · rename_i front port cut
    have shape := cutLast?_sound cut
    split at found
    · simp at found
    · rename_i noColon
      split at found
      · rename_i digital
        simp only [Option.some.injEq] at found
        subst found
        refine .plain shape (by simpa [isPortSuffix] using digital)
          ⟨by simpa using noColon, ?_⟩
        intro bracket
        apply unbracketed
        rw [shape, List.head?_append, bracket]
        rfl
      · simp at found

theorem plain?_of_isPlain {host port : List Char}
    (isPlain : IsPlain host) (suffix : isPortSuffix port = true) :
    plain? (host ++ port) = some host := by
  rw [plain?]
  rcases isPortSuffix_cases suffix with rfl | ⟨digits, rfl, digital⟩
  · rw [List.append_nil, cutLast?_eq_none isPlain.noColon]
  · rw [cutLast?_append host (not_mem_of_all digital ':' rfl)]
    simp [isPlain.noColon, digital]

theorem unbracketed_append {host port : List Char}
    (isPlain : IsPlain host) (suffix : isPortSuffix port = true) :
    (host ++ port).head? ≠ some '[' := by
  cases host with
  | cons c rest => exact isPlain.unbracketed
  | nil =>
      rcases isPortSuffix_cases suffix with rfl | ⟨digits, rfl, _⟩
      · simp
      · simp

theorem named?_eq_some_iff {s host : List Char} :
    named? s = some host ↔ Named s host := by
  constructor
  · intro found
    unfold named? at found
    split at found
    · exact named_of_bracketed? found
    · rename_i unbracketed
      refine named_of_plain? ?_ found
      intro bracket
      obtain ⟨inner, shape⟩ := List.head?_eq_some_iff.mp bracket
      exact unbracketed inner shape
  · intro named
    cases named with
    | plain shape suffix isPlain =>
        rw [shape, named?_unbracketed (unbracketed_append isPlain suffix)]
        exact plain?_of_isPlain isPlain suffix
    | bracketed shape suffix closed =>
        rw [shape]
        simp [named?, bracketed?, cutFirst?_append closed, suffix]

theorem keyOf?_eq_some_iff {s key : List Char} :
    keyOf? s = some key ↔
      ∃ host, Named (trim s) host ∧ dropFinal '.' host ≠ [] ∧
        key = lower (dropFinal '.' host) := by
  rw [keyOf?]
  constructor
  · intro found
    split at found
    · simp at found
    · rename_i host named
      simp only at found
      split at found
      · simp at found
      · rename_i nonempty
        simp only [Option.some.injEq] at found
        exact ⟨host, named?_eq_some_iff.mp named, by simpa using nonempty,
          found.symm⟩
  · intro holds
    obtain ⟨host, named, nonempty, rfl⟩ := holds
    rw [named?_eq_some_iff.mpr named]
    simp [nonempty]

theorem Named.subset {s host : List Char} (named : Named s host) :
    host ⊆ s := by
  cases named with
  | plain shape suffix isPlain =>
      rw [shape]
      exact List.subset_append_left _ _
  | @bracketed inner port shape suffix closed =>
      have more : s = ('[' :: inner ++ [']']) ++ port := by simp [shape]
      rw [more]
      exact List.subset_append_left _ _

/-- The characters of a key are those of the text, in lower case. -/
theorem forall_mem_keyOf? {p : Char → Prop}
    (lowered : ∀ c, p c → p c.toLower) {s key : List Char}
    (read : keyOf? s = some key) (all : ∀ c ∈ s, p c) : ∀ c ∈ key, p c := by
  obtain ⟨host, named, _, rfl⟩ := keyOf?_eq_some_iff.mp read
  intro c member
  obtain ⟨d, inside, rfl⟩ := List.mem_map.mp member
  have inHost := (dropFinal_prefix_self '.' host).subset inside
  exact lowered d (all d ((trim_infix_self s).subset (named.subset inHost)))

theorem key?_eq_some_iff {raw key : String} :
    key? raw = some key ↔ keyOf? raw.toList = some key.toList := by
  rw [key?]
  rw [Option.map_eq_some_iff]
  constructor
  · intro holds
    obtain ⟨text, found, rfl⟩ := holds
    simpa using found
  · intro found
    exact ⟨key.toList, found, String.ofList_toList⟩

/-- How a text without blanks around it must read to have a key. -/
def HasHost (s : List Char) : Prop :=
  ∃ host, Named s host ∧ host ≠ [] ∧ host ≠ ['.']

theorem isSome_key?_iff {raw : String} :
    (key? raw).isSome ↔ HasHost (trim raw.toList) := by
  rw [key?, Option.isSome_map, Option.isSome_iff_exists]
  constructor
  · rintro ⟨key, read⟩
    obtain ⟨host, named, nonempty, -⟩ := keyOf?_eq_some_iff.mp read
    rw [ne_eq, dropFinal_eq_nil_iff, not_or] at nonempty
    exact ⟨host, named, nonempty⟩
  · rintro ⟨host, named, nonempty⟩
    rw [← not_or, ← dropFinal_eq_nil_iff] at nonempty
    exact ⟨_, keyOf?_eq_some_iff.mpr ⟨host, named, nonempty, rfl⟩⟩

/-! Neither case nor blanks at the start change a key. -/

theorem isPortSuffix_lower (port : List Char) :
    isPortSuffix (lower port) = isPortSuffix port := by
  cases port with
  | nil => rfl
  | cons c digits =>
      have isSign : IsSign ':' := by decide
      simp [isPortSuffix, toLower_eq_sign_iff isSign, all_isDigit_lower]

theorem bracketed?_lower (inner : List Char) :
    bracketed? (lower inner) = (bracketed? inner).map lower := by
  unfold bracketed?
  rw [cutFirst?_lower (by decide)]
  cases cutFirst? ']' inner with
  | none => rfl
  | some parts =>
      simp only [Option.map_some, Prod.map, isPortSuffix_lower]
      split
      · simp
      · rfl

theorem plain?_lower (s : List Char) :
    plain? (lower s) = (plain? s).map lower := by
  unfold plain?
  rw [cutLast?_lower (by decide)]
  cases cutLast? ':' s with
  | none => rfl
  | some parts =>
      have isSign : IsSign ':' := by decide
      simp only [Option.map_some, Prod.map, contains_lower isSign,
        all_isDigit_lower]
      split
      · rfl
      · split <;> rfl

theorem named?_lower (s : List Char) :
    named? (lower s) = (named? s).map lower := by
  by_cases bracket : s.head? = some '['
  · obtain ⟨inner, rfl⟩ := List.head?_eq_some_iff.mp bracket
    exact bracketed?_lower inner
  · have unbracketed : (lower s).head? ≠ some '[' := by
      rw [lower]
      rw [List.head?_map]
      intro found
      obtain ⟨c, first, same⟩ := Option.map_eq_some_iff.mp found
      have isSign : IsSign '[' := by decide
      rw [(toLower_eq_sign_iff isSign).mp same] at first
      exact bracket first
    rw [named?_unbracketed bracket, named?_unbracketed unbracketed]
    exact plain?_lower s

theorem keyOf?_lower (s : List Char) : keyOf? (lower s) = keyOf? s := by
  unfold keyOf?
  rw [trim_lower, named?_lower]
  cases named? (trim s) with
  | none => rfl
  | some host =>
      have isSign : IsSign '.' := by decide
      simp [dropFinal_lower isSign]

theorem keyOf?_blanks_append {lead : List Char} (blank : AllBlank lead)
    (s : List Char) : keyOf? (lead ++ s) = keyOf? s := by
  unfold keyOf?
  rw [trim_blanks_append blank]

end VirtualHosts.Host
