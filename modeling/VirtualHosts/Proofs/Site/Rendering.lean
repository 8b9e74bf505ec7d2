import Mathlib
import VirtualHosts.Proofs.Site.Continuation

/-!
Texts as renderings of words and quoted strings.  Every text can be cut into
items and what stands between them, up to a comment or an opening quote at its
end.  The scanner gives back exactly the items, each with the lines on which it
stands, and refuses only a text whose last quote is left open.
-/

namespace VirtualHosts.Site

open VirtualHosts.Text

/-! What stands between quotes. -/

/-- A text between quotes, as it is written and as it is meant.  A backslash
before anything but a quote or a backslash stands for itself. -/
inductive QuotedAs : List Char → List Char → Prop
  | nil : QuotedAs [] []
  | escaped {c : Char} {s t : List Char} (escapable : c = '"' ∨ c = '\\')
      (rest : QuotedAs s t) : QuotedAs ('\\' :: c :: s) (c :: t)
  | plain {c : Char} {s t : List Char} (noQuote : c ≠ '"')
      (noBackslash : c ≠ '\\') (rest : QuotedAs s t) :
      QuotedAs (c :: s) (c :: t)
  | lone {c : Char} {s t : List Char} (noQuote : c ≠ '"')
      (noBackslash : c ≠ '\\') (rest : QuotedAs (c :: s) t) :
      QuotedAs ('\\' :: c :: s) ('\\' :: t)

/-- Whether a string that is opened before this text is never closed. -/
def NeverClosed (s : List Char) : Prop :=
  ¬∃ body text rest, s = body ++ '"' :: rest ∧ QuotedAs body text

theorem quotedAs_escaped (s : List Char) :
    QuotedAs (s.flatMap escapeQuoted) s := by
  induction s with
  | nil => exact .nil
  | cons c s ih =>
      rw [List.flatMap_cons, escapeQuoted]
      split
      · rename_i escapable
        exact .escaped (by simpa using escapable) ih
      · rename_i bare
        simp only [Bool.or_eq_true, decide_eq_true_eq, not_or] at bare
        exact .plain bare.1 bare.2 ih

/-- A lone backslash does not change how the rest is read. -/
theorem readQuoted?_lone {c : Char} (noQuote : c ≠ '"')
    (noBackslash : c ≠ '\\') (rest : List Char) :
    readQuoted? ('\\' :: c :: rest) =
      (readQuoted? (c :: rest)).map fun (text, rest) =>
        ('\\' :: text, rest) := by
  rw [readQuoted?]
  · decide
  · rintro _ _ same
    cases same
    exact noQuote rfl
  · rintro _ _ same
    cases same
    exact noBackslash rfl

theorem QuotedAs.readQuoted?_eq {body text : List Char}
    (quotedAs : QuotedAs body text) (rest : List Char) :
    readQuoted? (body ++ '"' :: rest) = some (text, rest) := by
  induction quotedAs with
  | nil => rfl
  | escaped escapable _ ih =>
      rcases escapable with rfl | rfl
      · simp [readQuoted?, ih]
      · simp [readQuoted?, ih]
  | plain noQuote noBackslash _ ih =>
      rw [List.cons_append, readQuoted?_plain noQuote noBackslash, ih]
      rfl
  | lone noQuote noBackslash _ ih =>
      rw [List.cons_append, List.cons_append,
        readQuoted?_lone noQuote noBackslash, ← List.cons_append, ih]
      rfl

theorem exists_quotedAs {s text rest : List Char}
    (closed : readQuoted? s = some (text, rest)) :
    ∃ body, s = body ++ '"' :: rest ∧ QuotedAs body text := by
  fun_induction readQuoted? s generalizing text rest with
  | case1 => contradiction
  | case2 tail =>
      cases closed
      exact ⟨[], rfl, .nil⟩
  | case3 tail ih =>
      obtain ⟨⟨inner, after⟩, closed, same⟩ := Option.map_eq_some_iff.mp closed
      cases same
      obtain ⟨body, rfl, quotedAs⟩ := ih closed
      exact ⟨_, rfl, .escaped (.inl rfl) quotedAs⟩
  | case4 tail ih =>
      obtain ⟨⟨inner, after⟩, closed, same⟩ := Option.map_eq_some_iff.mp closed
      cases same
      obtain ⟨body, rfl, quotedAs⟩ := ih closed
      exact ⟨_, rfl, .escaped (.inr rfl) quotedAs⟩
  | case5 c tail noQuote noEscape noBackslash ih =>
      obtain ⟨⟨inner, after⟩, closed, same⟩ := Option.map_eq_some_iff.mp closed
      cases same
      obtain ⟨body, rfl, quotedAs⟩ := ih closed
      by_cases backslash : c = '\\'
      · subst backslash
        -- The closing quote cannot come next, or it would be escaped.
        cases quotedAs with
        | nil => exact absurd rfl (noEscape _ rfl)
        | escaped _ _ => exact absurd rfl (noBackslash _ rfl)
        | lone _ _ _ => exact absurd rfl (noBackslash _ rfl)
        | plain notQuote notBackslash rest =>
            exact ⟨_, rfl, .lone notQuote notBackslash
              (.plain notQuote notBackslash rest)⟩
      · exact ⟨_, rfl, .plain noQuote backslash quotedAs⟩

/-! What stands between items. -/

/-- Blanks, and comments with the line breaks that end them. -/
inductive IsGap : List Char → Prop
  | nil : IsGap []
  | blank {c : Char} {rest : List Char} (blank : isBlank c = true)
      (more : IsGap rest) : IsGap (c :: rest)
  | comment {body rest : List Char} (noBreak : '\n' ∉ body)
      (more : IsGap rest) : IsGap ('#' :: body ++ '\n' :: rest)

theorem IsGap.append {gap more : List Char} (isGap : IsGap gap)
    (isGap' : IsGap more) : IsGap (gap ++ more) := by
  induction isGap with
  | nil => exact isGap'
  | blank blank _ ih => exact .blank blank ih
  | comment noBreak _ ih =>
      rw [List.append_assoc]
      exact .comment noBreak ih

/-- A comment that the text ends in, or nothing. -/
def IsLastComment (s : List Char) : Prop :=
  s = [] ∨ ∃ body, s = '#' :: body ∧ '\n' ∉ body

theorem newlines_append (s t : List Char) :
    newlines (s ++ t) = newlines s + newlines t :=
  List.count_append

theorem newlines_eq_zero {s : List Char} (noBreak : '\n' ∉ s) :
    newlines s = 0 :=
  List.count_eq_zero.mpr noBreak

theorem scan_gap {gap : List Char} (isGap : IsGap gap) (line : Nat)
    (rest : List Char) :
    scan line (gap ++ rest) = scan (line + newlines gap) rest := by
  induction isGap generalizing line with
  | nil => rfl
  | @blank c gap blank _ ih =>
      by_cases lineBreak : c = '\n'
      · subst lineBreak
        rw [List.cons_append, scan_newline, ih, newlines_newline]
        congr 1
        omega
      · rw [List.cons_append, scan_blank line lineBreak blank, ih,
          newlines_cons lineBreak]
  | @comment body gap noBreak _ ih =>
      have skipped : (body ++ '\n' :: (gap ++ rest)).dropWhile (· ≠ '\n') =
          '\n' :: (gap ++ rest) := by
        rw [dropWhile_append_stop (by decide), dropWhile_ne_of_not_mem noBreak,
          List.nil_append]
      rw [List.append_assoc, List.cons_append, scan_comment, List.cons_append,
        skipped, scan_newline, ih, List.cons_append,
        newlines_cons (by decide), newlines_append, newlines_eq_zero noBreak,
        newlines_newline]
      congr 1
      omega

/-! Items. -/

/-- A word, or a string with what stands between its quotes. -/
inductive Item where
  | word (text : List Char) (isWord : IsWord text)
  | quoted (body text : List Char) (quotedAs : QuotedAs body text)

namespace Item

def text : Item → List Char
  | word text _ => text
  | quoted _ text _ => text

def isQuoted : Item → Bool
  | word _ _ => false
  | quoted _ _ _ => true

def written : Item → List Char
  | word text _ => text
  | quoted body _ _ => '"' :: body ++ ['"']

/-- Any text as a string with its quotes and backslashes escaped. -/
def ofText (text : List Char) : Item :=
  quoted (text.flatMap escapeQuoted) text (quotedAs_escaped text)

theorem written_ne_nil (item : Item) : item.written ≠ [] := by
  cases item with
  | word text isWord => exact isWord.2.1
  | quoted body text quotedAs => simp [written]

/-- The token of an item with this text before it.  Lines are counted up to
its first and up to its last character. -/
def tokenAfter (item : Item) (before : List Char) : Token where
  text := String.ofList item.text
  line := 1 + newlines before
  endLine := 1 + newlines (before ++ item.written.dropLast)
  quoted := item.isQuoted

end Item

/-- An item and the gap behind it. -/
structure Part where
  item : Item
  gap : List Char
  isGap : IsGap gap

def Part.written (part : Part) : List Char :=
  part.item.written ++ part.gap

def writtenParts (parts : List Part) : List Char :=
  parts.flatMap Part.written

def tokensAfter (before : List Char) : List Part → List Token
  | [] => []
  | part :: rest =>
      part.item.tokenAfter before :: tokensAfter (before ++ part.written) rest

/-- Whether every word ends at a blank, or with the text. -/
def Spaced : List Part → List Char → Prop
  | [], _ => True
  | part :: rest, tail =>
      (part.item.isQuoted = false →
        ∀ c ∈ (part.gap ++ (writtenParts rest ++ tail)).head?,
          isBlank c = true) ∧ Spaced rest tail

theorem newlines_word {word : List Char} (isWord : IsWord word) :
    newlines word = 0 :=
  newlines_eq_zero (not_mem_of_all isWord.1 '\n' rfl)

theorem QuotedAs.newlines_eq {body text : List Char}
    (quotedAs : QuotedAs body text) : newlines body = newlines text := by
  have counted := (readQuoted?_append (quotedAs.readQuoted?_eq []) []).2
  rw [newlines_append] at counted
  simpa [newlines] using counted

theorem scan_item (before : List Char) (item : Item) {rest : List Char}
    (stops : item.isQuoted = false → ∀ c ∈ rest.head?, isBlank c = true) :
    scan (1 + newlines before) (item.written ++ rest) = do
      let more ← scan (1 + newlines (before ++ item.written)) rest
      return item.tokenAfter before :: more := by
  cases item with
  | word text isWord =>
      have ends : newlines text.dropLast = 0 :=
        newlines_eq_zero fun member =>
          not_mem_of_all isWord.1 '\n' rfl (List.mem_of_mem_dropLast member)
      rw [Item.written, scan_word _ isWord (stops rfl), newlines_append,
        newlines_word isWord, Item.tokenAfter, newlines_append, Item.written,
        ends]
      rfl
  | quoted body text quotedAs =>
      have whole : '"' :: body ++ ['"'] ++ rest = '"' :: (body ++ '"' :: rest) := by
        simp
      have count : newlines ('"' :: body ++ ['"']) = newlines text := by
        rw [newlines_append, newlines_cons (by decide), quotedAs.newlines_eq]
        rfl
      have ends : newlines (('"' :: body ++ ['"']).dropLast) = newlines text := by
        rw [List.dropLast_concat, newlines_cons (by decide),
          quotedAs.newlines_eq]
      rw [Item.written, whole, scan_closed _ (quotedAs.readQuoted?_eq rest),
        newlines_append, count, Item.tokenAfter, newlines_append, Item.written,
        ends, quotedToken, Nat.add_assoc]
      rfl

theorem scan_parts (before : List Char) {parts : List Part} {tail : List Char}
    (spaced : Spaced parts tail) :
    scan (1 + newlines before) (writtenParts parts ++ tail) = do
      let more ← scan (1 + newlines (before ++ writtenParts parts)) tail
      return tokensAfter before parts ++ more := by
  induction parts generalizing before with
  | nil => simp [writtenParts, tokensAfter]
  | cons part rest ih =>
      obtain ⟨stops, spaced⟩ := spaced
      have shape : writtenParts (part :: rest) ++ tail =
          part.item.written ++ (part.gap ++ (writtenParts rest ++ tail)) := by
        simp [writtenParts, Part.written]
      have behind : 1 + newlines (before ++ part.item.written) +
          newlines part.gap = 1 + newlines (before ++ part.written) := by
        rw [Part.written, ← List.append_assoc, newlines_append _ part.gap]
        omega
      rw [shape, scan_item before part.item stops, scan_gap part.isGap, behind,
        ih _ spaced]
      simp [writtenParts, tokensAfter]

/-! Whole texts. -/

/-- A text as items with gaps between them, before a tail that holds no
item. -/
structure Rendering where
  lead : List Char
  isGap : IsGap lead
  parts : List Part
  tail : List Char
  spaced : Spaced parts tail

namespace Rendering

/-- The text up to the tail. -/
def front (rendering : Rendering) : List Char :=
  rendering.lead ++ writtenParts rendering.parts

def written (rendering : Rendering) : List Char :=
  rendering.front ++ rendering.tail

def tokens (rendering : Rendering) : List Token :=
  tokensAfter rendering.lead rendering.parts

/-- Whether the tail is an opening quote and a string that is never closed. -/
def IsOpen (rendering : Rendering) : Prop :=
  ∃ after, rendering.tail = '"' :: after ∧ NeverClosed after

theorem scan_written (rendering : Rendering) :
    scan 1 rendering.written = do
      let more ← scan (1 + newlines rendering.front) rendering.tail
      return rendering.tokens ++ more := by
  rw [written, front, List.append_assoc, scan_gap rendering.isGap,
    scan_parts _ rendering.spaced]
  rfl

end Rendering

theorem scan_lastComment (line : Nat) {s : List Char}
    (last : IsLastComment s) : scan line s = .ok [] := by
  rcases last with rfl | ⟨body, rfl, noBreak⟩
  · rw [scan]
  · rw [scan_comment, dropWhile_ne_of_not_mem noBreak, scan]

theorem scan_neverClosed (line : Nat) {s : List Char}
    (neverClosed : NeverClosed s) :
    scan line ('"' :: s) = .error (.syntaxAt line .unterminatedQuote) := by
  apply scan_unclosed
  rw [Option.eq_none_iff_forall_ne_some]
  rintro ⟨text, rest⟩ closed
  obtain ⟨body, shape, quotedAs⟩ := exists_quotedAs closed
  exact neverClosed ⟨body, text, rest, shape, quotedAs⟩

theorem Rendering.tokens_written {rendering : Rendering}
    (last : IsLastComment rendering.tail) :
    scan 1 rendering.written = .ok rendering.tokens := by
  rw [scan_written, scan_lastComment _ last, ok_bind, List.append_nil]
  rfl

theorem Rendering.error_written {rendering : Rendering}
    (isOpen : rendering.IsOpen) :
    scan 1 rendering.written =
      .error (.syntaxAt (1 + newlines rendering.front) .unterminatedQuote) := by
  obtain ⟨after, shape, neverClosed⟩ := isOpen
  rw [scan_written, shape, scan_neverClosed _ neverClosed]
  rfl

/-! Every text is a rendering. -/

/-- Whether nothing but a comment or an open string is left behind. -/
def Rendering.IsWhole (rendering : Rendering) : Prop :=
  IsLastComment rendering.tail ∨ rendering.IsOpen

/-- The text with one more gap in front of it. -/
def Rendering.after (rendering : Rendering) {gap : List Char}
    (isGap : IsGap gap) : Rendering :=
  { rendering with
    lead := gap ++ rendering.lead
    isGap := isGap.append rendering.isGap }

theorem Rendering.written_after (rendering : Rendering) {gap : List Char}
    (isGap : IsGap gap) :
    (rendering.after isGap).written = gap ++ rendering.written := by
  simp [after, written, front]

/-- The text with one more item in front of it. -/
def Rendering.behind (rendering : Rendering) (item : Item)
    (stops : item.isQuoted = false →
      ∀ c ∈ rendering.written.head?, isBlank c = true) : Rendering where
  lead := []
  isGap := .nil
  parts := ⟨item, rendering.lead, rendering.isGap⟩ :: rendering.parts
  tail := rendering.tail
  spaced := by
    refine ⟨?_, rendering.spaced⟩
    simpa [written, front] using stops

theorem Rendering.written_behind (rendering : Rendering) (item : Item)
    (stops : item.isQuoted = false →
      ∀ c ∈ rendering.written.head?, isBlank c = true) :
    (rendering.behind item stops).written =
      item.written ++ rendering.written := by
  simp [behind, written, front, writtenParts, Part.written]

theorem isWord_takeWhile {c : Char} (dark : ¬isBlank c = true)
    (noComment : c ≠ '#') (noQuote : c ≠ '"') (rest : List Char) :
    IsWord (c :: rest.takeWhile isWordChar) := by
  refine ⟨?_, by simp, by simpa using noComment, by simpa using noQuote⟩
  rw [List.all_cons, List.all_takeWhile, Bool.and_true]
  simpa [isWordChar] using dark

/-- Every text is a tail, or begins with a gap or an item. -/
theorem begins_cases (s : List Char) :
    (IsLastComment s ∨ ∃ after, s = '"' :: after ∧ NeverClosed after) ∨
    (∃ gap rest, s = gap ++ rest ∧ IsGap gap ∧ gap ≠ []) ∨
    ∃ (item : Item) (rest : List Char), s = item.written ++ rest ∧
      (item.isQuoted = false → ∀ c ∈ rest.head?, isBlank c = true) := by
  cases s with
  | nil => exact .inl (.inl (.inl rfl))
  | cons c rest =>
      by_cases blank : isBlank c = true
      · exact .inr (.inl ⟨[c], rest, rfl, .blank blank .nil, by simp⟩)
      by_cases comment : c = '#'
      · subst comment
        by_cases broken : '\n' ∈ rest
        · obtain ⟨body, more, rfl, noBreak⟩ := List.eq_append_cons_of_mem broken
          exact .inr (.inl ⟨'#' :: body ++ ['\n'], more, by simp,
            .comment noBreak .nil, by simp⟩)
        · exact .inl (.inl (.inr ⟨rest, rfl, broken⟩))
      by_cases quoteMark : c = '"'
      · subst quoteMark
        by_cases neverClosed : NeverClosed rest
        · exact .inl (.inr ⟨rest, rfl, neverClosed⟩)
        · obtain ⟨body, text, more, rfl, quotedAs⟩ := not_not.mp neverClosed
          refine .inr (.inr ⟨.quoted body text quotedAs, more, ?_, ?_⟩)
          · simp [Item.written]
          · intro bare
            contradiction
      · have isWord := isWord_takeWhile blank comment quoteMark rest
        refine .inr (.inr ⟨.word _ isWord, rest.dropWhile isWordChar, ?_, ?_⟩)
        · simp [Item.written]
        · intro _ d first
          have stops := List.head?_dropWhile_not isWordChar rest
          rw [first] at stops
          simpa [isWordChar] using stops

theorem exists_rendering (s : List Char) :
    ∃ rendering : Rendering, rendering.written = s ∧ rendering.IsWhole := by
  induction length : s.length using Nat.strong_induction_on generalizing s with
  | _ n ih =>
      subst length
      rcases begins_cases s with
        whole | ⟨gap, rest, rfl, isGap, nonempty⟩ | ⟨item, rest, rfl, stops⟩
      · exact ⟨⟨[], .nil, [], s, trivial⟩, rfl, whole⟩
      · have shorter := List.length_pos_iff.mpr nonempty
        obtain ⟨rendering, rfl, whole⟩ :=
          ih rest.length (by simp; omega) rest rfl
        exact ⟨rendering.after isGap, rendering.written_after isGap, whole⟩
      · have shorter := List.length_pos_iff.mpr item.written_ne_nil
        obtain ⟨rendering, rfl, whole⟩ :=
          ih rest.length (by simp; omega) rest rfl
        exact ⟨rendering.behind item stops,
          rendering.written_behind item stops, whole⟩

theorem isWord_of_mem_tokensAfter {before : List Char} {parts : List Part}
    {token : Token} (member : token ∈ tokensAfter before parts)
    (unquoted : token.quoted = false) : IsWord token.text.toList := by
  induction parts generalizing before with
  | nil => contradiction
  | cons part rest ih =>
      rcases List.mem_cons.mp member with rfl | later
      · cases item : part.item with
        | word text isWord =>
            simpa [item, Item.tokenAfter, Item.text] using isWord
        | quoted body text quotedAs =>
            simp [item, Item.tokenAfter, Item.isQuoted] at unquoted
      · exact ih later

/-- What the scanner does with a text.  It accepts the renderings that end in
nothing but a comment, and gives back their items with the lines they stand on,
so its unquoted tokens are words; and it refuses the renderings that end in a
string that is never closed, on the line of the quote that opens it.  Any text
can be among the items, with its quotes and backslashes escaped. -/
theorem tokens_rendering (s : String) :
    (∀ given, tokens s = .ok given ↔
      ∃ rendering : Rendering, rendering.written = s.toList ∧
        IsLastComment rendering.tail ∧ given = rendering.tokens) ∧
    (∀ given, tokens s = .ok given →
      ∀ token ∈ given, token.quoted = false → IsWord token.text.toList) ∧
    (∀ error, tokens s = .error error ↔
      ∃ rendering : Rendering, rendering.written = s.toList ∧
        rendering.IsOpen ∧
        error = .syntaxAt (1 + newlines rendering.front)
          .unterminatedQuote) ∧
    (∀ text, (Item.ofText text).written = quote text ∧
      (Item.ofText text).text = text ∧
      (Item.ofText text).isQuoted = true) := by
  have accepted {rendering : Rendering} (shape : rendering.written = s.toList)
      (last : IsLastComment rendering.tail) :
      tokens s = .ok rendering.tokens := by
    rw [tokens, ← shape]
    exact Rendering.tokens_written last
  have refused {rendering : Rendering} (shape : rendering.written = s.toList)
      (isOpen : rendering.IsOpen) :
      tokens s = .error (.syntaxAt (1 + newlines rendering.front)
        .unterminatedQuote) := by
    rw [tokens, ← shape]
    exact Rendering.error_written isOpen
  have rendered (given : List Token) (scanned : tokens s = .ok given) :
      ∃ rendering : Rendering, rendering.written = s.toList ∧
        IsLastComment rendering.tail ∧ given = rendering.tokens := by
    obtain ⟨rendering, shape, last | isOpen⟩ := exists_rendering s.toList
    · rw [accepted shape last] at scanned
      cases scanned
      exact ⟨rendering, shape, last, rfl⟩
    · rw [refused shape isOpen] at scanned
      contradiction
  refine ⟨fun given => ⟨rendered given, ?_⟩, ?_, fun error => ⟨?_, ?_⟩,
    fun text => ⟨rfl, rfl, rfl⟩⟩
  · rintro ⟨rendering, shape, last, rfl⟩
    exact accepted shape last
  · intro given scanned token member unquoted
    obtain ⟨rendering, _, _, rfl⟩ := rendered given scanned
    exact isWord_of_mem_tokensAfter member unquoted
  · intro failed
    obtain ⟨rendering, shape, last | isOpen⟩ := exists_rendering s.toList
    · rw [accepted shape last] at failed
      contradiction
    · rw [refused shape isOpen] at failed
      cases failed
      exact ⟨rendering, shape, isOpen, rfl⟩
  · rintro ⟨rendering, shape, isOpen, rfl⟩
    exact refused shape isOpen

/-- A quote inside a word is no quote, and one behind a backslash does not
close. -/
example : tokens "a\"b \"c\\\"\nd" = .error (.syntaxAt 1 .unterminatedQuote) := by
  decide +kernel

end VirtualHosts.Site
