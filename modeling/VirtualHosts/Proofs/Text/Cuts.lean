import Mathlib
import VirtualHosts.Text.Cut

/-!
Cutting at a separator that is known to be there, or known to be absent.
-/

namespace VirtualHosts.Text

theorem not_mem_of_all {p : Char → Bool} {s : List Char} (all : s.all p = true)
    (sign : Char) (other : p sign = false) : sign ∉ s := by
  intro member
  have holds := List.all_eq_true.mp all sign member
  simp [other] at holds

theorem takeWhile_ne_of_not_mem {s : List Char} {sep : Char}
    (absent : sep ∉ s) : s.takeWhile (· ≠ sep) = s := by
  rw [List.takeWhile_eq_self_iff]
  intro c member
  simp only [ne_eq, decide_eq_true_eq]
  intro same
  exact absent (same ▸ member)

theorem dropWhile_ne_of_not_mem {s : List Char} {sep : Char}
    (absent : sep ∉ s) : s.dropWhile (· ≠ sep) = [] := by
  rw [List.dropWhile_eq_nil_iff]
  intro c member
  simp only [ne_eq, decide_eq_true_eq]
  intro same
  exact absent (same ▸ member)

/-- A run that stops at a character does not look behind it. -/
theorem takeWhile_append_stop {p : Char → Bool} {c : Char}
    (stops : p c = false) (s rest : List Char) :
    (s ++ c :: rest).takeWhile p = s.takeWhile p := by
  induction s with
  | nil => simp [stops]
  | cons d s ih =>
      rw [List.cons_append, List.takeWhile_cons, List.takeWhile_cons, ih]

theorem dropWhile_append_stop {p : Char → Bool} {c : Char}
    (stops : p c = false) (s rest : List Char) :
    (s ++ c :: rest).dropWhile p = s.dropWhile p ++ c :: rest := by
  induction s with
  | nil => simp [stops]
  | cons d s ih =>
      rw [List.cons_append, List.dropWhile_cons, List.dropWhile_cons, ih]
      split <;> rfl

theorem cutFirst?_append {sep : Char} {before : List Char}
    (absent : sep ∉ before) (after : List Char) :
    cutFirst? sep (before ++ sep :: after) = some (before, after) := by
  induction before with
  | nil => simp [cutFirst?]
  | cons c before ih =>
      simp only [List.mem_cons, not_or] at absent
      have different : c ≠ sep := fun same => absent.1 same.symm
      simp [cutFirst?, different, ih absent.2]

theorem cutFirst?_eq_none {sep : Char} {s : List Char} (absent : sep ∉ s) :
    cutFirst? sep s = none := by
  cases found : cutFirst? sep s with
  | none => rfl
  | some parts =>
      have shape := (cutFirst?_sound found).1
      exact absurd (by simp [shape]) absent

theorem cutLast?_eq_none {sep : Char} {s : List Char} (absent : sep ∉ s) :
    cutLast? sep s = none := by
  cases found : cutLast? sep s with
  | none => rfl
  | some parts =>
      have shape := cutLast?_sound found
      exact absurd (by simp [shape]) absent

theorem cutLast?_append {sep : Char} (before : List Char)
    {after : List Char} (absent : sep ∉ after) :
    cutLast? sep (before ++ sep :: after) = some (before, after) := by
  induction before with
  | nil => simp [cutLast?, cutLast?_eq_none absent]
  | cons c before ih => simp [cutLast?, ih]

theorem not_mem_of_cutLast?_eq_none {sep : Char} {s : List Char}
    (missing : cutLast? sep s = none) : sep ∉ s := by
  induction s with
  | nil => simp
  | cons c rest ih =>
      rw [cutLast?] at missing
      split at missing
      · simp at missing
      · rename_i inner
        split at missing
        · simp at missing
        · rename_i different
          simp only [List.mem_cons, not_or]
          exact ⟨fun same => different same.symm, ih inner⟩

theorem not_mem_of_cutLast? {sep : Char} {s before after : List Char}
    (found : cutLast? sep s = some (before, after)) : sep ∉ after := by
  induction s generalizing before with
  | nil => simp [cutLast?] at found
  | cons c rest ih =>
      rw [cutLast?] at found
      split at found
      · rename_i front back inner
        simp only [Option.some.injEq, Prod.mk.injEq] at found
        obtain ⟨rfl, rfl⟩ := found
        exact ih inner
      · rename_i inner
        split at found
        · simp only [Option.some.injEq, Prod.mk.injEq] at found
          obtain ⟨rfl, rfl⟩ := found
          exact not_mem_of_cutLast?_eq_none inner
        · simp at found

theorem pieces_eq_singleton {sep : Char} {s : List Char}
    (absent : sep ∉ s) : pieces sep s = [s] := by
  induction s with
  | nil => rfl
  | cons c rest ih =>
      simp only [List.mem_cons, not_or] at absent
      have different : c ≠ sep := fun same => absent.1 same.symm
      simp [pieces, different, ih absent.2]

/-- A separator splits the pieces before it from the pieces behind it. -/
theorem pieces_append_sep (sep : Char) (s rest : List Char) :
    pieces sep (s ++ sep :: rest) = pieces sep s ++ pieces sep rest := by
  induction s with
  | nil => simp [pieces]
  | cons c s ih =>
      rw [List.cons_append, pieces, pieces, ih]
      split
      · rfl
      · cases split : pieces sep s with
        | nil => exact absurd split (pieces_ne_nil sep s)
        | cons first more => rfl

theorem pieces_append {sep : Char} {piece : List Char}
    (absent : sep ∉ piece) (rest : List Char) :
    pieces sep (piece ++ sep :: rest) = piece :: pieces sep rest := by
  rw [pieces_append_sep, pieces_eq_singleton absent, List.singleton_append]

theorem not_mem_of_mem_pieces {sep : Char} {s piece : List Char}
    (member : piece ∈ pieces sep s) : sep ∉ piece := by
  induction s generalizing piece with
  | nil => simp_all [pieces]
  | cons c rest ih =>
      rw [pieces] at member
      split at member
      · rcases List.mem_cons.mp member with rfl | member
        · simp
        · exact ih member
      · rename_i different
        cases split : pieces sep rest with
        | nil => exact absurd split (pieces_ne_nil sep rest)
        | cons first more =>
            rw [split] at member ih
            rcases List.mem_cons.mp member with rfl | member
            · have absent := ih List.mem_cons_self
              simp only [List.mem_cons, not_or]
              exact ⟨fun same => different same.symm, absent⟩
            · exact ih (List.mem_cons_of_mem _ member)

theorem pieces_intercalate {sep : Char} {parts : List (List Char)}
    (absent : ∀ part ∈ parts, sep ∉ part) (nonempty : parts ≠ []) :
    pieces sep ([sep].intercalate parts) = parts := by
  induction parts with
  | nil => contradiction
  | cons part rest ih =>
      have here := absent part List.mem_cons_self
      cases rest with
      | nil => rw [List.intercalate_singleton, pieces_eq_singleton here]
      | cons next more =>
          rw [List.intercalate_cons_cons, List.append_assoc,
            List.singleton_append, pieces_append here, ih _ (by simp)]
          intro other member
          exact absent other (List.mem_cons_of_mem part member)

/-- Every character but the separator is in some piece. -/
theorem exists_mem_pieces_iff {sep c : Char} (different : c ≠ sep)
    {s : List Char} : (∃ piece ∈ pieces sep s, c ∈ piece) ↔ c ∈ s := by
  induction s with
  | nil => simp [pieces]
  | cons d rest ih =>
      rw [List.mem_cons, ← ih, pieces]
      split
      · rename_i same
        simp [same, different]
      · cases split : pieces sep rest with
        | nil => exact absurd split (pieces_ne_nil sep rest)
        | cons first more => simp [or_assoc]

theorem dropLead?_append (lead rest : List Char) :
    dropLead? lead (lead ++ rest) = some rest :=
  dropLead?_eq_some_iff.mpr rfl

theorem dropLead?_eq_none {lead s : List Char} {c : Char}
    (member : c ∈ lead) (absent : c ∉ s) : dropLead? lead s = none := by
  cases found : dropLead? lead s with
  | none => rfl
  | some rest =>
      rw [dropLead?_eq_some_iff.mp found] at absent
      exact absurd (List.mem_append_left rest member) absent

theorem containsText_eq_false {part s : List Char} {c : Char}
    (member : c ∈ part) (absent : c ∉ s) : containsText part s = false := by
  induction s with
  | nil =>
      cases part with
      | nil => simp at member
      | cons d part => rfl
  | cons d rest ih =>
      have here := dropLead?_eq_none member absent
      have later := ih fun deeper => absent (List.mem_cons_of_mem d deeper)
      simp [containsText, here, later]

theorem count_le_of_containsText {part s : List Char}
    (found : containsText part s = true) (c : Char) :
    part.count c ≤ s.count c := by
  induction s with
  | nil => simp_all [containsText]
  | cons d rest ih =>
      rw [containsText, Bool.or_eq_true, Option.isSome_iff_exists] at found
      rcases found with ⟨after, here⟩ | later
      · rw [dropLead?_eq_some_iff.mp here, List.count_append]
        omega
      · exact (ih later).trans List.count_le_count_cons

end VirtualHosts.Text
