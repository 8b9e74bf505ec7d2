import Mathlib
import VirtualHosts.Proofs.Site.Composition

/-!
Of the layout of a site file only the line breaks between tokens count.  Two
texts with the same tokens and the same breaks describe the same sites, or are
refused for the same reason, blamed on the token at the same position.
-/

namespace VirtualHosts

namespace Site

/-- The tokens are the same but for their lines, and a token starts where the
one before it ended in both lists or in neither. -/
structure SameBreaks (given other : List Token) : Prop where
  length : given.length = other.length
  words : ∀ i (here : i < given.length) (there : i < other.length),
    other[i].text = given[i].text ∧ other[i].quoted = given[i].quoted
  breaks : ∀ i (here : i + 1 < given.length) (there : i + 1 < other.length),
    given[i + 1].line = given[i].endLine ↔
      other[i + 1].line = other[i].endLine

/-- The lines on which the two tokens at some position start. -/
def LinesAt (given other : List Token) (line line' : Nat) : Prop :=
  ∃ i, ∃ (here : i < given.length) (there : i < other.length),
    given[i].line = line ∧ other[i].line = line'

theorem SameBreaks.alike {given other : List Token}
    (same : SameBreaks given other) :
    List.Forall₂ (Token.Alike (LinesAt given other)) given other := by
  refine List.forall₂_iff_get.mpr ⟨same.length, ?_⟩
  intro i here there
  obtain ⟨text, quoted⟩ := same.words i here there
  exact ⟨text, quoted, i, here, there, rfl, rfl⟩

variable {lines : Nat → Nat → Prop}

/-- The breaks between neighbours, and the one before the first token, are all
that a reading looks at. -/
theorem parallel_of_breaks {given other : List Token} {last last' : Nat}
    (alike : List.Forall₂ (Token.Alike lines) given other)
    (start : ∀ first ∈ given.head?, ∀ first' ∈ other.head?,
      (first.line = last ↔ first'.line = last'))
    (breaks : ∀ i (here : i + 1 < given.length)
      (there : i + 1 < other.length),
      given[i + 1].line = given[i].endLine ↔
        other[i + 1].line = other[i].endLine) :
    Parallel lines last last' given other := by
  induction alike generalizing last last' with
  | nil => exact .nil last last'
  | @cons token token' rest rest' tokens _ ih =>
      refine .cons tokens (start token rfl token' rfl) (ih ?_ ?_)
      · intro next follows next' follows'
        obtain ⟨more, rfl⟩ := List.head?_eq_some_iff.mp follows
        obtain ⟨more', rfl⟩ := List.head?_eq_some_iff.mp follows'
        exact breaks 0 (by simp) (by simp)
      · intro i here there
        exact breaks (i + 1) (Nat.succ_lt_succ here) (Nat.succ_lt_succ there)

/-- No token of a text is on a line before the first one. -/
theorem line_ne_zero_of_tokens {s : String} {given : List Token}
    (scanned : tokens s = .ok given) {token : Token}
    (member : token ∈ given) : token.line ≠ 0 := by
  have bounds := bounds_of_scan 1 s.toList given scanned token member
  omega

theorem SameBreaks.parallel {a b : String} {given other : List Token}
    (scanned : tokens a = .ok given) (scanned' : tokens b = .ok other)
    (same : SameBreaks given other) :
    Parallel (LinesAt given other) 0 0 given other := by
  refine parallel_of_breaks same.alike ?_ same.breaks
  intro first leads first' leads'
  have late := line_ne_zero_of_tokens scanned (List.mem_of_mem_head? leads)
  have late' := line_ne_zero_of_tokens scanned' (List.mem_of_mem_head? leads')
  exact iff_of_false late late'

end Site

namespace SiteFile

open VirtualHosts.Site

/-- Blanks, comments and the numbers of the lines change nothing: the sites are
the same, or the error is, and both blame the token at one position. -/
theorem read_sameBreaks {a b : String} {given other : List Token}
    (scanned : tokens a = .ok given) (scanned' : tokens b = .ok other)
    (same : SameBreaks given other) :
    Agree (LinesAt given other) Eq (SiteFile.read a) (SiteFile.read b) := by
  have nothing : directives [] = .ok [] := rfl
  have before : ∀ token ∈ ([] : List Token), token.endLine < 0 := by simp
  have structured := agree_directives_append nothing before (by simp)
    (same.parallel scanned scanned')
  rw [SiteFile.read, SiteFile.read, scanned, scanned', ok_bind, ok_bind]
  refine structured.bind ?_
  rintro all _ ⟨others, rfl, alike⟩
  refine (agree_sitesOf true alike).andThen ?_
  intro sites
  exact .ok rfl

/-- A text without comments and blank lines, and its tokens. -/
def denseText : String :=
  "a.example \x7b\n root \"d\n e\"\n gzip h1\n\x7d"

def denseTokens : List Token :=
  [⟨"a.example", 1, 1, false⟩, ⟨"\x7b", 1, 1, false⟩,
    ⟨"root", 2, 2, false⟩, ⟨"d\n e", 2, 3, true⟩,
    ⟨"gzip", 4, 4, false⟩, ⟨"h1", 4, 4, false⟩, ⟨"\x7d", 5, 5, false⟩]

def looseText : String :=
  "# one\n\n\ta.example  \x7b # site\n\nroot \"d\n e\"# files\n\n" ++
    "  gzip\th1 # no\n\n\x7d\n"

def looseTokens : List Token :=
  [⟨"a.example", 3, 3, false⟩, ⟨"\x7b", 3, 3, false⟩,
    ⟨"root", 5, 5, false⟩, ⟨"d\n e", 5, 6, true⟩,
    ⟨"gzip", 8, 8, false⟩, ⟨"h1", 8, 8, false⟩, ⟨"\x7d", 10, 10, false⟩]

theorem sameBreaks_looseTokens : SameBreaks denseTokens looseTokens where
  length := rfl
  words := by decide +kernel
  breaks := by
    intro i here there
    have bound : i < 6 := Nat.lt_of_succ_lt_succ here
    interval_cases i <;> decide +revert

theorem read_sameBreaks_looseText :
    tokens denseText = .ok denseTokens ∧ tokens looseText = .ok looseTokens ∧
      SameBreaks denseTokens looseTokens ∧
      Agree (LinesAt denseTokens looseTokens) Eq (SiteFile.read denseText)
        (SiteFile.read looseText) ∧
      SiteFile.read denseText = .error (.unknownDirective 4 "gzip") ∧
      SiteFile.read looseText = .error (.unknownDirective 8 "gzip") := by
  have dense : tokens denseText = .ok denseTokens := by
    decide +kernel
  have loose : tokens looseText = .ok looseTokens := by
    decide +kernel
  refine ⟨dense, loose, sameBreaks_looseTokens,
    read_sameBreaks dense loose sameBreaks_looseTokens, ?_, ?_⟩
  · decide +kernel
  · decide +kernel

end SiteFile

end VirtualHosts
