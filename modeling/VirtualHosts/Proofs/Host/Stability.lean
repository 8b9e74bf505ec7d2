import Mathlib
import VirtualHosts.Proofs.Host.Grammar

/-!
Keys of keys.  A key is its own key unless it ends in a dot or in a blank: the
one trailing dot that a key may still have is dropped when it is read again.
-/

namespace VirtualHosts.Host

open VirtualHosts.Text

/-- The ends that a second reading takes off. -/
def EndsLoose (key : List Char) : Prop :=
  key.getLast? = some '.' ∨ EndsBlank key

theorem IsPlain.mono {host front : List Char} (isPlain : IsPlain host)
    (lead : front <+: host) : IsPlain front := by
  refine ⟨fun member => isPlain.noColon (lead.subset member), ?_⟩
  intro bracket
  obtain ⟨rest, rfl⟩ := lead
  apply isPlain.unbracketed
  rw [List.head?_append, bracket]
  rfl

theorem IsPlain.lower {host : List Char} (isPlain : IsPlain host) :
    IsPlain (lower host) := by
  constructor
  · rw [sign_mem_lower_iff (by decide)]
    exact isPlain.noColon
  · intro bracket
    cases host with
    | nil => simp at bracket
    | cons c rest =>
        have isSign : IsSign '[' := by decide
        simp only [lower_cons, List.head?_cons, Option.some.injEq] at bracket
        apply isPlain.unbracketed
        rw [(toLower_eq_sign_iff isSign).mp bracket]
        rfl

theorem IsPlain.concat_dot {host : List Char} (isPlain : IsPlain host)
    (nonempty : host ≠ []) : IsPlain (host ++ ['.']) := by
  refine ⟨by simpa using isPlain.noColon, ?_⟩
  obtain ⟨c, rest, rfl⟩ := List.exists_cons_of_ne_nil nonempty
  exact isPlain.unbracketed

theorem not_endsLoose_bracketed (inner : List Char) :
    ¬EndsLoose ('[' :: inner ++ [']']) := by
  intro either
  rcases either with dot | ⟨c, last, blank⟩
  · rw [List.getLast?_concat] at dot
    simp at dot
  · rw [List.getLast?_concat] at last
    cases last
    exact absurd blank (by decide)

theorem lower_bracketed (inner : List Char) :
    lower ('[' :: inner ++ [']']) = '[' :: lower inner ++ [']'] := by
  simp

theorem dropFinal_bracketed (inner : List Char) :
    dropFinal '.' ('[' :: inner ++ [']']) = '[' :: inner ++ [']'] := by
  apply dropFinal_eq_self
  rw [List.getLast?_concat]
  decide

/-- A text without blanks around it that is a host without a colon, or one in
brackets, and does not end loosely is its own key in lower case. -/
theorem keyOf?_firm {host : List Char} (named : Named host host)
    (first : ¬StartsBlank host) (firm : ¬EndsLoose host)
    (nonempty : host ≠ []) : keyOf? host = some (lower host) := by
  have trimmed : trim host = host :=
    trim_eq_self first fun blank => firm (Or.inr blank)
  have dotless : dropFinal '.' host = host :=
    dropFinal_eq_self fun dot => firm (Or.inl dot)
  rw [keyOf?_eq_some_iff]
  exact ⟨host, by rwa [trimmed], by rwa [dotless], by rw [dotless]⟩

theorem keyOf?_bracketed {inner : List Char} (closed : ']' ∉ inner) :
    keyOf? ('[' :: inner ++ [']']) =
      some ('[' :: lower inner ++ [']']) := by
  rw [← lower_bracketed]
  apply keyOf?_firm
  · exact .bracketed rfl rfl closed
  · intro holds
    obtain ⟨c, first, blank⟩ := holds
    cases first
    exact absurd blank (by decide)
  · exact not_endsLoose_bracketed inner
  · simp

/-- A dot at the end of a text is dropped, whatever stands before it. -/
theorem keyOf?_concat_dot {host : List Char} (isPlain : IsPlain host)
    (first : ¬StartsBlank host) (nonempty : host ≠ []) :
    keyOf? (host ++ ['.']) = some (lower host) := by
  have trimmed : trim (host ++ ['.']) = host ++ ['.'] := by
    apply trim_eq_self (not_startsBlank_append first nonempty ['.'])
    intro holds
    obtain ⟨c, last, blank⟩ := holds
    rw [List.getLast?_concat] at last
    cases last
    exact absurd blank (by decide)
  rw [keyOf?_eq_some_iff, trimmed]
  refine ⟨host ++ ['.'], ?_, by simpa using nonempty, by simp⟩
  exact .plain (List.append_nil _).symm rfl (isPlain.concat_dot nonempty)

theorem not_endsLoose_of_keyOf?_self {key : List Char}
    (same : keyOf? key = some key) : ¬EndsLoose key := by
  obtain ⟨host, named, _, shape⟩ := keyOf?_eq_some_iff.mp same
  cases named with
  | bracketed text suffix closed =>
      rw [dropFinal_bracketed, lower_bracketed] at shape
      rw [shape]
      exact not_endsLoose_bracketed _
  | @plain host port text suffix isPlain =>
      -- Nothing is lost on the way: no blank, no port and no dot.
      have core := (dropFinal_prefix_self '.' host).length_le
      have whole : host.length ≤ (trim key).length := by simp [text]
      have trimmed := (trim_infix_self key).length_le
      have length : key.length = (dropFinal '.' host).length := by
        rw [congrArg List.length shape, length_lower]
      have dotless : dropFinal '.' host = host :=
        (dropFinal_prefix_self '.' host).eq_of_length (by omega)
      have blankless : trim key = key :=
        (trim_infix_self key).eq_of_length (by omega)
      rw [dotless] at shape
      intro either
      rcases either with dot | blank
      · apply getLast?_of_dropFinal_eq_self _ dot
        rw [shape, dropFinal_lower (by decide), dotless]
      · apply not_endsBlank_trim key
        rwa [blankless]

/-- A key is a text in brackets, or has no colon, no bracket and no blank where
one would be read. -/
theorem keyOf?_cases {s key : List Char} (read : keyOf? s = some key) :
    lower key = key ∧
      ((∃ inner, ']' ∉ inner ∧ key = '[' :: inner ++ [']']) ∨
        (IsPlain key ∧ ¬StartsBlank key ∧ key ≠ [])) := by
  obtain ⟨host, named, nonempty, shape⟩ := keyOf?_eq_some_iff.mp read
  refine ⟨by rw [shape, lower_lower], ?_⟩
  cases named with
  | @bracketed inner port text suffix closed =>
      left
      rw [dropFinal_bracketed, lower_bracketed] at shape
      exact ⟨lower inner, by rwa [sign_mem_lower_iff (by decide)], shape⟩
  | @plain host port text suffix isPlain =>
      right
      have core := isPlain.mono (dropFinal_prefix_self '.' host)
      refine ⟨shape ▸ core.lower, ?_, by simpa [shape] using nonempty⟩
      rw [shape, startsBlank_lower_iff]
      apply not_startsBlank_mono _ (not_startsBlank_trim s)
      rw [text]
      exact (dropFinal_prefix_self '.' host).trans
        (List.prefix_append host port)

theorem keyOf?_self_of_firm {s key : List Char}
    (read : keyOf? s = some key) (firm : ¬EndsLoose key) :
    keyOf? key = some key := by
  obtain ⟨lowercase, ⟨inner, closed, rfl⟩ | ⟨isPlain, dark, nonempty⟩⟩ :=
    keyOf?_cases read
  · rw [keyOf?_bracketed closed, ← lower_bracketed, lowercase]
  · conv_rhs => rw [← lowercase]
    exact keyOf?_firm (.plain (List.append_nil key).symm rfl isPlain) dark firm
      nonempty

theorem keyOf?_self_iff {s key : List Char} (read : keyOf? s = some key) :
    keyOf? key = some key ↔ ¬EndsLoose key :=
  ⟨not_endsLoose_of_keyOf?_self, keyOf?_self_of_firm read⟩

theorem key?_self_iff {raw key : String} (read : key? raw = some key) :
    key? key = some key ↔ ¬EndsLoose key.toList := by
  rw [key?_eq_some_iff] at read ⊢
  exact keyOf?_self_iff read

end VirtualHosts.Host
