import VirtualHosts.Text.Cut

/-!
Matching without regard to case, against words that are written in ASCII.  A
letter outside ASCII matches the letters that it folds to, so a ligature
matches two or three of them; a text of ASCII alone is only put in lower case.
-/

namespace VirtualHosts.Text

/-- What a character folds to, if that is written in ASCII.  Any other
character stands for itself. -/
def folding (c : Char) : List Char :=
  match c with
  | 'ß' | 'ẞ' => ['s', 's']
  | 'ſ' => ['s']
  | '\u212A' => ['k']
  | 'ﬀ' => ['f', 'f']
  | 'ﬁ' => ['f', 'i']
  | 'ﬂ' => ['f', 'l']
  | 'ﬃ' => ['f', 'f', 'i']
  | 'ﬄ' => ['f', 'f', 'l']
  | 'ﬅ' | 'ﬆ' => ['s', 't']
  | c => [c.toLower]

def caseless (s : List Char) : List Char :=
  s.flatMap folding

theorem folding_of_ascii {c : Char} (ascii : c.toNat < 128) :
    folding c = [c.toLower] := by
  unfold folding
  split <;> simp at ascii ⊢

theorem caseless_append (s t : List Char) :
    caseless (s ++ t) = caseless s ++ caseless t := by
  simp [caseless]

theorem caseless_of_ascii {s : List Char} (ascii : ∀ c ∈ s, c.toNat < 128) :
    caseless s = lower s := by
  induction s with
  | nil => rfl
  | cons c rest ih =>
      have head := folding_of_ascii (ascii c List.mem_cons_self)
      have tail := ih fun d member => ascii d (List.mem_cons_of_mem c member)
      simp only [caseless, List.flatMap_cons, head] at tail ⊢
      simp [tail, lower]

end VirtualHosts.Text
