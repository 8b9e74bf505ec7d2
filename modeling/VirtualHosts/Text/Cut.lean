/-!
Cutting a text at a separator: at the first one, at the last one, and at all
of them.  Each cut keeps every other character in its place.
-/

namespace VirtualHosts.Text

def cutFirst? (sep : Char) : List Char → Option (List Char × List Char)
  | [] => none
  | c :: rest =>
      if c = sep then some ([], rest)
      else (cutFirst? sep rest).map fun (before, after) => (c :: before, after)

def cutLast? (sep : Char) : List Char → Option (List Char × List Char)
  | [] => none
  | c :: rest =>
      match cutLast? sep rest with
      | some (before, after) => some (c :: before, after)
      | none => if c = sep then some ([], rest) else none

/-- The pieces between separators, the outer ones included.  There is always
at least one. -/
def pieces (sep : Char) : List Char → List (List Char)
  | [] => [[]]
  | c :: rest =>
      if c = sep then [] :: pieces sep rest
      else
        match pieces sep rest with
        | [] => [[c]]
        | piece :: more => (c :: piece) :: more

/-- What follows `lead`, if the text starts with it. -/
def dropLead? : List Char → List Char → Option (List Char)
  | [], s => some s
  | _ :: _, [] => none
  | c :: lead, d :: rest => if c = d then dropLead? lead rest else none

/-- The text before a final `c`, or the whole text. -/
def dropFinal (c : Char) (s : List Char) : List Char :=
  match s.reverse with
  | [] => s
  | d :: front => if d = c then front.reverse else s

def containsText (part : List Char) : List Char → Bool
  | [] => part.isEmpty
  | c :: rest => (dropLead? part (c :: rest)).isSome || containsText part rest

def lower (s : List Char) : List Char :=
  s.map Char.toLower

theorem cutFirst?_sound {sep : Char} {s before after : List Char}
    (found : cutFirst? sep s = some (before, after)) :
    s = before ++ sep :: after ∧ sep ∉ before := by
  induction s generalizing before with
  | nil => simp [cutFirst?] at found
  | cons c rest ih =>
      unfold cutFirst? at found
      split at found
      · rename_i same
        simp only [Option.some.injEq, Prod.mk.injEq] at found
        obtain ⟨rfl, rfl⟩ := found
        simp [same]
      · rename_i different
        simp only [Option.map_eq_some_iff, Prod.exists, Prod.mk.injEq] at found
        obtain ⟨front, back, inner, rfl, rfl⟩ := found
        obtain ⟨shape, absent⟩ := ih inner
        refine ⟨by simp [shape], ?_⟩
        simp only [List.mem_cons, not_or]
        exact ⟨fun same => different same.symm, absent⟩

theorem cutLast?_sound {sep : Char} {s before after : List Char}
    (found : cutLast? sep s = some (before, after)) :
    s = before ++ sep :: after := by
  induction s generalizing before with
  | nil => simp [cutLast?] at found
  | cons c rest ih =>
      unfold cutLast? at found
      split at found
      · rename_i front back inner
        simp only [Option.some.injEq, Prod.mk.injEq] at found
        obtain ⟨rfl, rfl⟩ := found
        simp [ih inner]
      · split at found
        · rename_i same
          simp only [Option.some.injEq, Prod.mk.injEq] at found
          obtain ⟨rfl, rfl⟩ := found
          simp [same]
        · simp at found

theorem pieces_ne_nil (sep : Char) (s : List Char) : pieces sep s ≠ [] := by
  cases s with
  | nil => simp [pieces]
  | cons c rest =>
      unfold pieces
      split
      · simp
      · split <;> simp

theorem dropLead?_eq_some_iff {lead s rest : List Char} :
    dropLead? lead s = some rest ↔ s = lead ++ rest := by
  induction lead generalizing s with
  | nil => simp [dropLead?]
  | cons c lead ih =>
      cases s with
      | nil => simp [dropLead?]
      | cons d tail =>
          unfold dropLead?
          split
          · rename_i same
            simp [ih, same]
          · rename_i different
            simp only [reduceCtorEq, List.cons_append, List.cons.injEq,
              false_iff, not_and]
            exact fun same => absurd same.symm different

theorem length_dropWhile_le (p : Char → Bool) (s : List Char) :
    (s.dropWhile p).length ≤ s.length :=
  (List.dropWhile_sublist p).length_le

end VirtualHosts.Text
