import VirtualHosts.Text.Cut

/-!
Offsets in a text count the bytes of its UTF-8 form.  A text is cut between
two of its characters only; at any other offset there is nothing to cut.
-/

namespace VirtualHosts.Text

inductive SliceFault where
  | insideCharacter
  | outOfRange
  deriving DecidableEq

/-- The offset of the first `sep`. -/
def offset? (sep : Char) : List Char → Option Nat
  | [] => none
  | c :: rest =>
      if c = sep then some 0
      else (offset? sep rest).map (c.utf8Size + ·)

/-- The parts of a text before an offset and from there on. -/
def sliceAt : Nat → List Char → Except SliceFault (List Char × List Char)
  | 0, s => .ok ([], s)
  | _ + 1, [] => .error .outOfRange
  | offset + 1, c :: rest =>
      if c.utf8Size ≤ offset + 1 then
        match sliceAt (offset + 1 - c.utf8Size) rest with
        | .ok (front, back) => .ok (c :: front, back)
        | .error fault => .error fault
      else .error .insideCharacter

def sliceFrom (offset : Nat) (s : List Char) :
    Except SliceFault (List Char) :=
  (sliceAt offset s).map (·.2)

def sliceTo (offset : Nat) (s : List Char) : Except SliceFault (List Char) :=
  (sliceAt offset s).map (·.1)

/-! The size of a text is where its end is. -/

def size (s : List Char) : Nat :=
  (String.ofList s).utf8ByteSize

@[simp] theorem size_nil : size [] = 0 := rfl

@[simp] theorem size_cons (c : Char) (s : List Char) :
    size (c :: s) = c.utf8Size + size s := by
  simp [size]

@[simp] theorem size_append (s t : List Char) :
    size (s ++ t) = size s + size t := by
  simp [size]

theorem offset?_eq_map (sep : Char) (s : List Char) :
    offset? sep s = (cutFirst? sep s).map fun (front, _) => size front := by
  induction s with
  | nil => rfl
  | cons c rest ih =>
      rw [offset?, cutFirst?, ih]
      split
      · rfl
      · cases cutFirst? sep rest <;> simp

theorem sliceAt_append (front back : List Char) :
    sliceAt (size front) (front ++ back) = .ok (front, back) := by
  induction front with
  | nil => simp [sliceAt]
  | cons c front ih =>
      -- No character is empty, so the cut is not before `c`.
      have positive := c.utf8Size_pos
      obtain ⟨offset, shape⟩ :
          ∃ offset, size (c :: front) = offset + 1 :=
        Nat.exists_eq_add_one.mpr (by rw [size_cons]; omega)
      have rest : offset + 1 - c.utf8Size = size front := by
        rw [size_cons] at shape
        omega
      have fits : c.utf8Size ≤ offset + 1 := by
        rw [size_cons] at shape
        omega
      rw [shape, List.cons_append, sliceAt, if_pos fits, rest, ih]

theorem append_of_sliceAt {offset : Nat} {s front back : List Char}
    (cut : sliceAt offset s = .ok (front, back)) :
    s = front ++ back ∧ size front = offset := by
  induction s generalizing offset front with
  | nil =>
      cases offset with
      | zero =>
          cases cut
          exact ⟨rfl, rfl⟩
      | succ offset => contradiction
  | cons c rest ih =>
      cases offset with
      | zero =>
          cases cut
          exact ⟨rfl, rfl⟩
      | succ offset =>
          rw [sliceAt] at cut
          split at cut
          · rename_i fits
            split at cut
            · rename_i inner back' within
              cases cut
              obtain ⟨shape, length⟩ := ih within
              refine ⟨by rw [shape]; rfl, ?_⟩
              rw [size_cons]
              omega
            · contradiction
          · contradiction

/-- A text can be cut exactly at the valid positions of its string. -/
theorem exists_sliceAt_iff {offset : Nat} {s : List Char} :
    (∃ parts, sliceAt offset s = .ok parts) ↔
      String.Pos.Raw.IsValid (String.ofList s) ⟨offset⟩ := by
  rw [String.Pos.Raw.isValid_iff_exists_append]
  constructor
  · rintro ⟨⟨front, back⟩, cut⟩
    obtain ⟨rfl, rfl⟩ := append_of_sliceAt cut
    exact ⟨String.ofList front, String.ofList back, by simp, rfl⟩
  · rintro ⟨front, back, shape, place⟩
    have whole : s = front.toList ++ back.toList := by
      rw [← String.toList_append, ← shape, String.toList_ofList]
    have before : size front.toList = offset := by
      rw [size, String.ofList_toList]
      exact (congrArg String.Pos.Raw.byteIdx place).symm
    exact ⟨_, by rw [whole, ← before]; exact sliceAt_append _ _⟩

theorem sliceFrom_append (front back : List Char) :
    sliceFrom (size front) (front ++ back) = .ok back := by
  rw [sliceFrom, sliceAt_append]
  rfl

theorem sliceTo_append (front back : List Char) :
    sliceTo (size front) (front ++ back) = .ok front := by
  rw [sliceTo, sliceAt_append]
  rfl

end VirtualHosts.Text
