import VirtualHosts.Text.Cut
import VirtualHosts.Toml.Value

/-!
What stands between the parts of a TOML document: blanks, line breaks and
comments.  A carriage return counts only before a line feed.
-/

namespace VirtualHosts.Toml

open VirtualHosts.Text

def isBlank (c : Char) : Bool :=
  c = ' ' || c = '\t'

/-- Whether a character may stand in a comment: no control but the tab. -/
def isVisible (c : Char) : Bool :=
  c = '\t' || (0x20 ≤ c.toNat && c.toNat ≠ 0x7F)

def skipBlanks (s : List Char) : List Char :=
  s.dropWhile isBlank

def skipComment (s : List Char) : List Char :=
  match s with
  | '#' :: rest => rest.dropWhile isVisible
  | _ => s

def lineBreak? : List Char → Option (List Char)
  | '\n' :: rest => some rest
  | '\r' :: '\n' :: rest => some rest
  | _ => none

/-- What follows the end of the line, if nothing but blanks and a comment
comes before it. -/
def endOfLine? (s : List Char) : Option (List Char) :=
  match skipComment (skipBlanks s) with
  | [] => some []
  | rest => lineBreak? rest

def skipBreaks : List Char → List Char
  | [] => []
  | '\r' :: '\n' :: rest => skipBreaks rest
  | c :: rest => if isBlank c || c = '\n' then skipBreaks rest else c :: rest

def skipLayout (s : List Char) : List Char :=
  match s with
  | [] => []
  | '\r' :: '\n' :: rest => skipLayout rest
  | c :: rest =>
      if isBlank c || c = '\n' then skipLayout rest
      else if c = '#' then skipLayout (rest.dropWhile isVisible)
      else c :: rest
termination_by s.length
decreasing_by
  all_goals simp only [List.length_cons]
  · omega
  · omega
  · have := length_dropWhile_le isVisible rest
    omega

/-- One or more items with a separator between them.  An item that takes
nothing ends the search. -/
def separated? {α : Type} (item : Reader α) (sep : Char) (s : List Char) :
    Option (List α × List Char) :=
  match item s with
  | none => none
  | some (first, []) => some ([first], [])
  | some (first, c :: rest) =>
      if c = sep then
        if _shorter : rest.length < s.length then
          (separated? item sep rest).map fun (items, rest) =>
            (first :: items, rest)
        else none
      else some ([first], c :: rest)
termination_by s.length

theorem length_skipBreaks_le (s : List Char) :
    (skipBreaks s).length ≤ s.length := by
  fun_induction skipBreaks s with
  | case1 => exact Nat.le_refl _
  | case2 rest ih =>
      simp only [List.length_cons]
      omega
  | case3 c rest _ _ ih =>
      simp only [List.length_cons]
      omega
  | case4 c rest _ _ => exact Nat.le_refl _

theorem length_lineBreak? {s rest : List Char}
    (found : lineBreak? s = some rest) : rest.length < s.length := by
  unfold lineBreak? at found
  split at found
  · rw [← Option.some.inj found]
    simp
  · rw [← Option.some.inj found]
    simp only [List.length_cons]
    omega
  · cases found

end VirtualHosts.Toml
