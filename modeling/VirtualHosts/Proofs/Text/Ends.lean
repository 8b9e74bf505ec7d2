import Mathlib
import VirtualHosts.Text.Blank
import VirtualHosts.Text.Cut

/-!
The ends of a text: what trimming leaves, and what a final character that may
be dropped changes.
-/

namespace VirtualHosts.Text

/-! Blanks at the ends.  Trimming takes a run of blanks off either side and
leaves a text that neither begins nor ends with one. -/

def AllBlank (s : List Char) : Prop :=
  ∀ c ∈ s, isBlank c = true

def StartsBlank (s : List Char) : Prop :=
  ∃ c ∈ s.head?, isBlank c = true

def EndsBlank (s : List Char) : Prop :=
  ∃ c ∈ s.getLast?, isBlank c = true

theorem trimLeft_blanks_append {lead : List Char} (blank : AllBlank lead)
    (s : List Char) : trimLeft (lead ++ s) = trimLeft s :=
  List.dropWhile_append_of_pos blank

theorem trimLeft_eq_self {s : List Char} (firm : ¬StartsBlank s) :
    trimLeft s = s := by
  cases s with
  | nil => rfl
  | cons c rest =>
      have dark : ¬isBlank c = true := fun blank => firm ⟨c, rfl, blank⟩
      exact List.dropWhile_cons_of_neg dark

theorem trimRight_eq_self {s : List Char} (firm : ¬EndsBlank s) :
    trimRight s = s := by
  have reversed : trimLeft s.reverse = s.reverse := by
    apply trimLeft_eq_self
    intro holds
    obtain ⟨c, first, blank⟩ := holds
    exact firm ⟨c, by simpa using first, blank⟩
  rw [trimRight]
  rw [← trimLeft, reversed, List.reverse_reverse]

theorem trimLeft_suffix (s : List Char) : trimLeft s <:+ s :=
  List.dropWhile_suffix isBlank

theorem trimRight_prefix_self (s : List Char) : trimRight s <+: s := by
  have reversed := trimLeft_suffix s.reverse
  rw [← List.reverse_prefix, List.reverse_reverse] at reversed
  exact reversed

theorem not_startsBlank_trimLeft (s : List Char) :
    ¬StartsBlank (trimLeft s) := by
  intro holds
  obtain ⟨c, first, blank⟩ := holds
  have dark := List.head?_dropWhile_not isBlank s
  rw [show (s.dropWhile isBlank).head? = some c from first] at dark
  simp [blank] at dark

theorem not_endsBlank_trimRight (s : List Char) :
    ¬EndsBlank (trimRight s) := by
  intro holds
  obtain ⟨c, last, blank⟩ := holds
  apply not_startsBlank_trimLeft s.reverse
  exact ⟨c, by simpa [trimRight, trimLeft] using last, blank⟩

theorem trim_blanks_append {lead : List Char} (blank : AllBlank lead)
    (s : List Char) : trim (lead ++ s) = trim s := by
  unfold trim
  rw [trimLeft_blanks_append blank]

theorem trim_eq_self {s : List Char} (first : ¬StartsBlank s)
    (last : ¬EndsBlank s) : trim s = s := by
  rw [trim]
  rw [trimLeft_eq_self first, trimRight_eq_self last]

theorem not_endsBlank_trim (s : List Char) : ¬EndsBlank (trim s) :=
  not_endsBlank_trimRight (trimLeft s)

theorem not_startsBlank_mono {s t : List Char} (lead : s <+: t)
    (firm : ¬StartsBlank t) : ¬StartsBlank s := by
  intro holds
  obtain ⟨c, first, blank⟩ := holds
  obtain ⟨rest, rfl⟩ := lead
  apply firm
  refine ⟨c, ?_, blank⟩
  simp only [Option.mem_def] at first ⊢
  simp [List.head?_append, first]

theorem not_startsBlank_append {s : List Char} (firm : ¬StartsBlank s)
    (nonempty : s ≠ []) (rest : List Char) : ¬StartsBlank (s ++ rest) := by
  intro holds
  obtain ⟨c, first, blank⟩ := holds
  apply firm
  refine ⟨c, ?_, blank⟩
  obtain ⟨d, more, rfl⟩ := List.exists_cons_of_ne_nil nonempty
  exact first

theorem not_endsBlank_of_suffix {s t : List Char} (trail : s <:+ t)
    (firm : ¬EndsBlank t) : ¬EndsBlank s := by
  intro holds
  obtain ⟨c, last, blank⟩ := holds
  obtain ⟨front, rfl⟩ := trail
  apply firm
  refine ⟨c, ?_, blank⟩
  simp only [Option.mem_def] at last ⊢
  simp [List.getLast?_append, last]

theorem not_startsBlank_trim (s : List Char) : ¬StartsBlank (trim s) :=
  not_startsBlank_mono (trimRight_prefix_self (trimLeft s))
    (not_startsBlank_trimLeft s)

@[simp] theorem trim_trim (s : List Char) : trim (trim s) = trim s :=
  trim_eq_self (not_startsBlank_trim s) (not_endsBlank_trim s)

theorem trim_infix_self (s : List Char) : trim s <:+: s :=
  (trimRight_prefix_self (trimLeft s)).isInfix.trans (trimLeft_suffix s).isInfix

theorem exists_blanks_append_trimLeft (s : List Char) :
    ∃ lead, AllBlank lead ∧ s = lead ++ trimLeft s := by
  refine ⟨s.takeWhile isBlank, ?_, List.takeWhile_append_dropWhile.symm⟩
  intro c member
  exact List.mem_takeWhile_imp member

/-- A text that does not end in a blank loses blanks at its start only. -/
theorem exists_blanks_append_trim {s : List Char} (firm : ¬EndsBlank s) :
    ∃ lead, AllBlank lead ∧ s = lead ++ trim s := by
  obtain ⟨lead, blank, shape⟩ := exists_blanks_append_trimLeft s
  refine ⟨lead, blank, ?_⟩
  have inner := not_endsBlank_of_suffix (trimLeft_suffix s) firm
  rw [trim]
  rw [trimRight_eq_self inner]
  exact shape

theorem trimRight_append_blanks (s : List Char) {trail : List Char}
    (blank : AllBlank trail) : trimRight (s ++ trail) = trimRight s := by
  have reversed : AllBlank trail.reverse :=
    fun c member => blank c (List.mem_reverse.mp member)
  rw [trimRight, List.reverse_append, ← trimLeft,
    trimLeft_blanks_append reversed]
  rfl

theorem exists_trimRight_append_blanks (s : List Char) :
    ∃ trail, AllBlank trail ∧ s = trimRight s ++ trail := by
  obtain ⟨lead, blank, shape⟩ := exists_blanks_append_trimLeft s.reverse
  refine ⟨lead.reverse, fun c member => blank c (List.mem_reverse.mp member),
    ?_⟩
  rw [trimRight, ← trimLeft, ← List.reverse_append, ← shape,
    List.reverse_reverse]

/-- How a text without blanks around it stands in the whole text. -/
structure Trimmed (s t : List Char) : Prop where
  around : ∃ lead trail, AllBlank lead ∧ AllBlank trail ∧
    s = lead ++ (t ++ trail)
  first : ¬StartsBlank t
  last : ¬EndsBlank t

theorem trimmed_trim (s : List Char) : Trimmed s (trim s) := by
  obtain ⟨lead, leads, shape⟩ := exists_blanks_append_trimLeft s
  obtain ⟨trail, trails, inner⟩ := exists_trimRight_append_blanks (trimLeft s)
  refine ⟨⟨lead, trail, leads, trails, ?_⟩, not_startsBlank_trim s,
    not_endsBlank_trim s⟩
  rw [trim, ← inner]
  exact shape

theorem trim_eq_of_trimmed {s t : List Char} (trimmed : Trimmed s t) :
    trim s = t := by
  obtain ⟨⟨lead, trail, leads, trails, rfl⟩, first, last⟩ := trimmed
  rw [trim_blanks_append leads]
  by_cases empty : t = []
  · subst empty
    simpa using trim_blanks_append trails []
  · rw [trim, trimLeft_eq_self (not_startsBlank_append first empty trail),
      trimRight_append_blanks t trails, trimRight_eq_self last]

theorem trimmed_iff {s t : List Char} : Trimmed s t ↔ trim s = t := by
  constructor
  · exact trim_eq_of_trimmed
  · rintro rfl
    exact trimmed_trim s

/-! A final character. -/

@[simp] theorem dropFinal_nil (c : Char) : dropFinal c [] = [] := rfl

@[simp] theorem dropFinal_concat (c d : Char) (s : List Char) :
    dropFinal c (s ++ [d]) = if d = c then s else s ++ [d] := by
  simp [dropFinal]

theorem dropFinal_eq_nil_iff {c : Char} {s : List Char} :
    dropFinal c s = [] ↔ s = [] ∨ s = [c] := by
  induction s using List.reverseRecOn with
  | nil => simp
  | append_singleton front d _ =>
      rw [dropFinal_concat]
      split
      · rename_i same
        simp [same]
      · rename_i different
        cases front <;> simp [different]

theorem dropFinal_eq_self {c : Char} {s : List Char}
    (other : s.getLast? ≠ some c) : dropFinal c s = s := by
  induction s using List.reverseRecOn with
  | nil => rfl
  | append_singleton front d _ =>
      have different : d ≠ c := by simpa using other
      simp [different]

theorem getLast?_of_dropFinal_eq_self {c : Char} {s : List Char}
    (same : dropFinal c s = s) : s.getLast? ≠ some c := by
  intro last
  obtain ⟨front, rfl⟩ := List.getLast?_eq_some_iff.mp last
  rw [dropFinal_concat, if_pos rfl] at same
  have lengths := congrArg List.length same
  simp at lengths

theorem dropFinal_eq_iff {c : Char} {s t : List Char} :
    dropFinal c s = t ↔
      s = t ++ [c] ∨ (s = t ∧ t.getLast? ≠ some c) := by
  constructor
  · rintro rfl
    induction s using List.reverseRecOn with
    | nil => simp
    | append_singleton front d _ =>
        rw [dropFinal_concat]
        split
        · rename_i same
          exact Or.inl (by rw [same])
        · rename_i different
          exact Or.inr ⟨rfl, by simpa using different⟩
  · rintro (rfl | ⟨rfl, other⟩)
    · simp
    · exact dropFinal_eq_self other

theorem dropFinal_append {c : Char} (s : List Char) {t : List Char}
    (nonempty : t ≠ []) : dropFinal c (s ++ t) = s ++ dropFinal c t := by
  induction t using List.reverseRecOn with
  | nil => exact absurd rfl nonempty
  | append_singleton front d _ =>
      rw [← List.append_assoc, dropFinal_concat, dropFinal_concat]
      split <;> simp

theorem dropFinal_prefix_self (c : Char) (s : List Char) :
    dropFinal c s <+: s := by
  induction s using List.reverseRecOn with
  | nil => exact List.prefix_rfl
  | append_singleton front d _ =>
      rw [dropFinal_concat]
      split
      · exact List.prefix_append front [d]
      · exact List.prefix_rfl

end VirtualHosts.Text
