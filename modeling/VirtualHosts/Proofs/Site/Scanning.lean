import Mathlib
import VirtualHosts.Proofs.Bind
import VirtualHosts.Proofs.Text.Cuts
import VirtualHosts.Proofs.Text.Ends
import VirtualHosts.Site.Printer

/-!
What the scanner makes of a text that comes before other text: blanks give no
token, a line break moves to the next line, and a word before a blank and a
quoted text give one token each.
-/

namespace VirtualHosts.Site

open VirtualHosts.Text

def wordToken (line : Nat) (word : List Char) : Token :=
  ⟨String.ofList word, line, line, false⟩

def quotedToken (line : Nat) (s : List Char) : Token :=
  ⟨String.ofList s, line, line + newlines s, true⟩

/-! What the scanner does at each first character. -/

theorem scan_newline (line : Nat) (rest : List Char) :
    scan line ('\n' :: rest) = scan (line + 1) rest := by
  rw [scan, if_pos rfl]

theorem scan_blank (line : Nat) {c : Char} (noBreak : c ≠ '\n')
    (blank : isBlank c = true) (rest : List Char) :
    scan line (c :: rest) = scan line rest := by
  rw [scan, if_neg noBreak, if_pos blank]

theorem scan_comment (line : Nat) (rest : List Char) :
    scan line ('#' :: rest) = scan line (rest.dropWhile (· ≠ '\n')) := by
  rw [scan, if_neg (by decide), if_neg (by decide), if_pos rfl]

theorem scan_unclosed (line : Nat) {rest : List Char}
    (unclosed : readQuoted? rest = none) :
    scan line ('"' :: rest) =
      .error (.syntaxAt line .unterminatedQuote) := by
  rw [scan, if_neg (by decide), if_neg (by decide), if_neg (by decide),
    if_pos rfl]
  split
  · rfl
  · rename_i text after closed
    rw [unclosed] at closed
    contradiction

theorem scan_closed (line : Nat) {rest text after : List Char}
    (closed : readQuoted? rest = some (text, after)) :
    scan line ('"' :: rest) = do
      let more ← scan (line + newlines text) after
      return quotedToken line text :: more := by
  rw [scan, if_neg (by decide), if_neg (by decide), if_neg (by decide),
    if_pos rfl]
  split
  · rename_i unclosed
    rw [closed] at unclosed
    contradiction
  · rename_i text' after' closed'
    rw [closed] at closed'
    cases closed'
    rfl

theorem scan_bare (line : Nat) {c : Char} (noBreak : c ≠ '\n')
    (dark : ¬isBlank c = true) (noComment : c ≠ '#') (noQuote : c ≠ '"')
    (rest : List Char) :
    scan line (c :: rest) = do
      let more ← scan line (rest.dropWhile isWordChar)
      return wordToken line (c :: rest.takeWhile isWordChar) :: more := by
  rw [scan, if_neg noBreak, if_neg dark, if_neg noComment, if_neg noQuote]
  rfl

/-- Scanning `s` on `line` gives the tokens and goes on at `next`, whatever
follows. -/
def Yields (line : Nat) (s : List Char) (given : List Token) (next : Nat) :
    Prop :=
  ∀ rest, scan line (s ++ rest) = do
    let more ← scan next rest
    return given ++ more

/-- Whether a text is scanned as one word when a blank follows. -/
def IsWord (word : List Char) : Prop :=
  word.all isWordChar = true ∧ word ≠ [] ∧ word.head? ≠ some '#' ∧
    word.head? ≠ some '"'

instance : DecidablePred IsWord := fun _ =>
  inferInstanceAs (Decidable (_ ∧ _ ∧ _ ∧ _))

namespace Yields

theorem nil (line : Nat) : Yields line [] [] line := by
  intro rest
  simp

theorem append {line middle next : Nat} {s t : List Char}
    {given more : List Token} (first : Yields line s given middle)
    (second : Yields middle t more next) :
    Yields line (s ++ t) (given ++ more) next := by
  intro rest
  rw [List.append_assoc, first, second]
  simp

theorem newline {line next : Nat} {s : List Char} {given : List Token}
    (after : Yields (line + 1) s given next) :
    Yields line ('\n' :: s) given next := by
  intro rest
  rw [List.cons_append, scan_newline, after]

theorem space {line next : Nat} {s : List Char} {given : List Token}
    (after : Yields line s given next) :
    Yields line (' ' :: s) given next := by
  intro rest
  rw [List.cons_append, scan_blank line (by decide) (by decide), after]

end Yields

/-! Quoted texts. -/

theorem readQuoted?_plain {c : Char} (noQuote : c ≠ '"')
    (noEscape : c ≠ '\\') (rest : List Char) :
    readQuoted? (c :: rest) =
      (readQuoted? rest).map fun (text, rest) => (c :: text, rest) := by
  rw [readQuoted?]
  · exact noQuote
  · intro tail escape
    exact absurd escape noEscape
  · intro tail escape
    exact absurd escape noEscape

theorem readQuoted?_escaped (s rest : List Char) :
    readQuoted? (s.flatMap escapeQuoted ++ '"' :: rest) = some (s, rest) := by
  induction s with
  | nil => rfl
  | cons c s ih =>
      rw [List.flatMap_cons, List.append_assoc]
      by_cases quoteMark : c = '"'
      · subst quoteMark
        simp [escapeQuoted, readQuoted?, ih]
      by_cases escape : c = '\\'
      · subst escape
        simp [escapeQuoted, readQuoted?, ih]
      · rw [escapeQuoted, if_neg (by simp [quoteMark, escape]),
          List.singleton_append, readQuoted?_plain quoteMark escape, ih]
        rfl

theorem scan_quote (line : Nat) (s rest : List Char) :
    scan line (quote s ++ rest) = do
      let more ← scan (line + newlines s) rest
      return quotedToken line s :: more := by
  have shape : quote s ++ rest =
      '"' :: (s.flatMap escapeQuoted ++ '"' :: rest) := by
    simp [quote]
  rw [shape, scan_closed line (readQuoted?_escaped s rest)]

theorem Yields.quoted {line next : Nat} {s : List Char} {given : List Token}
    (q : List Char) (after : Yields (line + newlines q) s given next) :
    Yields line (quote q ++ s) (quotedToken line q :: given) next := by
  intro rest
  rw [List.append_assoc, scan_quote, after]
  simp

/-! Words. -/

theorem takeWhile_word {word rest : List Char}
    (wordy : word.all isWordChar = true)
    (stops : ∀ c ∈ rest.head?, isBlank c = true) :
    (word ++ rest).takeWhile isWordChar = word ∧
      (word ++ rest).dropWhile isWordChar = rest := by
  rw [List.all_eq_true] at wordy
  rw [List.takeWhile_append_of_pos wordy, List.dropWhile_append_of_pos wordy]
  cases rest with
  | nil => simp
  | cons c rest => simp [isWordChar, stops c rfl]

/-- A word that a blank or nothing follows is scanned whole. -/
theorem scan_word (line : Nat) {word rest : List Char} (isWord : IsWord word)
    (stops : ∀ c ∈ rest.head?, isBlank c = true) :
    scan line (word ++ rest) = do
      let more ← scan line rest
      return wordToken line word :: more := by
  obtain ⟨wordy, nonempty, noComment, noQuote⟩ := isWord
  obtain ⟨first, tail, rfl⟩ := List.exists_cons_of_ne_nil nonempty
  rw [List.all_cons, Bool.and_eq_true] at wordy
  have dark : ¬isBlank first = true := by
    simpa [isWordChar] using wordy.1
  have noBreak : first ≠ '\n' := by
    intro same
    subst same
    exact dark (by decide)
  obtain ⟨taken, dropped⟩ := takeWhile_word wordy.2 stops
  rw [List.cons_append, scan_bare line noBreak dark (by simpa using noComment)
    (by simpa using noQuote), taken, dropped]

theorem Yields.word {line next : Nat} {word s : List Char} {c : Char}
    {given : List Token} (isWord : IsWord word) (blank : isBlank c = true)
    (after : Yields line (c :: s) given next) :
    Yields line (word ++ c :: s) (wordToken line word :: given) next := by
  intro rest
  rw [List.append_assoc, scan_word line isWord (by simpa using blank), after]
  simp

end VirtualHosts.Site
