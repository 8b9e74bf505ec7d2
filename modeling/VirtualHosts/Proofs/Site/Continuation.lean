import Mathlib
import VirtualHosts.Proofs.Site.Parallel
import VirtualHosts.Proofs.Text.Cuts

/-!
Scanning a text that stands further down, or that another text follows.  Lines
further down move every token and every error by as much; a text that is
scanned whole is scanned in the same way when a new line follows it.
-/

namespace VirtualHosts.Site

open VirtualHosts.Text

/-- The line that many lines further down. -/
def Below (distance line other : Nat) : Prop :=
  other = line + distance

theorem below_add (distance line : Nat) :
    Below distance line (line + distance) := rfl

theorem mapLine_of_alike {distance : Nat} {fault other : Error}
    (alike : fault.Alike (Below distance) other) :
    other = fault.mapLine (· + distance) := by
  cases alike with
  | syntaxAt related fault => rw [related, Error.mapLine]
  | unknownDirective related name => rw [related, Error.mapLine]
  | invalidHost host => rfl
  | duplicateHost host => rfl
  | invalidPort related value => rw [related, Error.mapLine]
  | invalidHeader related fault => rw [related, Error.mapLine]

/-! Further down. -/

theorem parallel_cons_of_below {distance : Nat} {token token' : Token}
    {given given' : List Token}
    (tokens : token.Alike (Below distance) token')
    (ends : token'.endLine = token.endLine + distance)
    (more : ∀ last,
      Parallel (Below distance) last (last + distance) given given')
    (last : Nat) :
    Parallel (Below distance) last (last + distance) (token :: given)
      (token' :: given') := by
  refine .cons tokens ?_ ?_
  · rw [tokens.line]
    omega
  · rw [ends]
    exact more token.endLine

theorem agree_scan_below (distance line : Nat) (s : List Char) :
    Agree (Below distance)
      (fun given given' => ∀ last,
        Parallel (Below distance) last (last + distance) given given')
      (scan line s) (scan (line + distance) s) := by
  fun_induction scan line s with
  | case1 line =>
      rw [scan]
      exact .ok fun last => .nil last (last + distance)
  | case2 line rest ih =>
      rw [scan_newline, Nat.add_right_comm]
      exact ih
  | case3 line c rest noBreak blank ih =>
      rw [scan_blank _ noBreak blank]
      exact ih
  | case4 line rest _ _ ih =>
      rw [scan_comment]
      exact ih
  | case5 line rest unclosed =>
      rw [scan_unclosed _ unclosed]
      exact .error (.syntaxAt (below_add distance line) _)
  | case6 line rest text after closed _ endLine _ _ _ ih =>
      rw [scan_closed _ closed, Nat.add_right_comm]
      refine ih.bind ?_
      intro given given' more
      refine .ok (parallel_cons_of_below ⟨rfl, rfl, rfl⟩ ?_ more)
      rw [quotedToken, Nat.add_right_comm]
  | case7 line c rest noBreak dark noComment noQuote word ih =>
      rw [scan_bare _ noBreak dark noComment noQuote]
      refine ih.bind ?_
      intro given given' more
      exact .ok (parallel_cons_of_below ⟨rfl, rfl, rfl⟩ rfl more)

/-! Before a new line. -/

theorem newlines_newline (s : List Char) :
    newlines ('\n' :: s) = newlines s + 1 :=
  List.count_cons_self

theorem newlines_cons {c : Char} (noBreak : c ≠ '\n') (s : List Char) :
    newlines (c :: s) = newlines s :=
  List.count_cons_of_ne noBreak

theorem newlines_dropWhile {p : Char → Bool} (stops : p '\n' = false)
    (s : List Char) : newlines (s.dropWhile p) = newlines s := by
  induction s with
  | nil => rfl
  | cons c s ih =>
      rw [List.dropWhile_cons]
      split
      · rename_i passes
        have noBreak : c ≠ '\n' := by
          intro same
          rw [same, stops] at passes
          contradiction
        rw [ih, newlines_cons noBreak]
      · rfl

/-- What is quoted stays so when more follows, and no line break is lost. -/
theorem readQuoted?_append {s text after : List Char}
    (closed : readQuoted? s = some (text, after)) (rest : List Char) :
    readQuoted? (s ++ rest) = some (text, after ++ rest) ∧
      newlines s = newlines text + newlines after := by
  fun_induction readQuoted? s generalizing text after with
  | case1 => contradiction
  | case2 tail =>
      cases closed
      exact ⟨rfl, by simp [newlines]⟩
  | case3 tail ih =>
      obtain ⟨⟨inner, behind⟩, closed, same⟩ :=
        Option.map_eq_some_iff.mp closed
      cases same
      obtain ⟨more, count⟩ := ih closed
      refine ⟨by simp [readQuoted?, more], ?_⟩
      rw [newlines_cons (by decide), newlines_cons (by decide),
        newlines_cons (by decide), count]
  | case4 tail ih =>
      obtain ⟨⟨inner, behind⟩, closed, same⟩ :=
        Option.map_eq_some_iff.mp closed
      cases same
      obtain ⟨more, count⟩ := ih closed
      refine ⟨by simp [readQuoted?, more], ?_⟩
      rw [newlines_cons (by decide), newlines_cons (by decide),
        newlines_cons (by decide), count]
  | case5 c tail noQuote noEscape noBackslash ih =>
      obtain ⟨⟨inner, behind⟩, closed, same⟩ :=
        Option.map_eq_some_iff.mp closed
      cases same
      obtain ⟨more, count⟩ := ih closed
      refine ⟨?_, ?_⟩
      · -- A backslash at the end would leave the quote open.
        cases tail with
        | nil => contradiction
        | cons d tail =>
            rw [List.cons_append, readQuoted?, more]
            · rfl
            · exact noQuote
            · rintro _ escape same
              cases same
              exact noEscape tail escape rfl
            · rintro _ escape same
              cases same
              exact noBackslash tail escape rfl
      · by_cases lineBreak : c = '\n'
        · rw [lineBreak, newlines_newline, newlines_newline, count]
          omega
        · rw [newlines_cons lineBreak, newlines_cons lineBreak, count]

theorem scan_append_newline (line : Nat) (s rest : List Char) :
    ∀ given, scan line s = .ok given →
      scan line (s ++ '\n' :: rest) = do
        let more ← scan (line + newlines s + 1) rest
        return given ++ more := by
  fun_induction scan line s with
  | case1 line =>
      rintro _ ⟨⟩
      rw [List.nil_append, scan_newline]
      simp [newlines]
  | case2 line tail ih =>
      intro given scanned
      rw [List.cons_append, scan_newline, ih given scanned,
        newlines_newline, Nat.add_right_comm line, Nat.add_assoc line]
  | case3 line c tail noBreak blank ih =>
      intro given scanned
      rw [List.cons_append, scan_blank _ noBreak blank, ih given scanned,
        newlines_cons noBreak]
  | case4 line tail _ _ ih =>
      intro given scanned
      rw [List.cons_append, scan_comment, dropWhile_append_stop (by decide),
        ih given scanned, newlines_dropWhile (by decide),
        newlines_cons (by decide)]
  | case5 line tail unclosed =>
      intro given scanned
      contradiction
  | case6 line tail text after closed _ endLine _ _ _ ih =>
      intro given scanned
      obtain ⟨more, later, whole⟩ := bind_eq_ok_iff.mp scanned
      cases whole
      obtain ⟨closedMore, count⟩ := readQuoted?_append closed ('\n' :: rest)
      rw [List.cons_append, scan_closed _ closedMore, ih more later,
        newlines_cons (by decide), count, ← Nat.add_assoc line]
      simp [quotedToken, endLine]
  | case7 line c tail noBreak dark noComment noQuote word ih =>
      intro given scanned
      obtain ⟨more, later, whole⟩ := bind_eq_ok_iff.mp scanned
      cases whole
      rw [List.cons_append, scan_bare _ noBreak dark noComment noQuote,
        takeWhile_append_stop (by decide), dropWhile_append_stop (by decide),
        ih more later, newlines_dropWhile (by decide),
        newlines_cons noBreak]
      simp [wordToken, word]

/-- Every token lies between the first line and the last. -/
theorem bounds_of_scan (line : Nat) (s : List Char) :
    ∀ given, scan line s = .ok given →
      ∀ token ∈ given,
        line ≤ token.line ∧ token.endLine ≤ line + newlines s := by
  fun_induction scan line s with
  | case1 line =>
      rintro _ ⟨⟩ token member
      contradiction
  | case2 line tail ih =>
      intro given scanned token member
      have bounds := ih given scanned token member
      rw [newlines_newline]
      omega
  | case3 line c tail noBreak blank ih =>
      intro given scanned token member
      have bounds := ih given scanned token member
      rwa [newlines_cons noBreak]
  | case4 line tail _ _ ih =>
      intro given scanned token member
      have bounds := ih given scanned token member
      rw [newlines_dropWhile (by decide)] at bounds
      rwa [newlines_cons (by decide)]
  | case5 line tail unclosed =>
      intro given scanned
      contradiction
  | case6 line tail text after closed _ endLine _ _ _ ih =>
      intro given scanned token member
      obtain ⟨more, later, whole⟩ := bind_eq_ok_iff.mp scanned
      cases whole
      have count := (readQuoted?_append closed []).2
      rw [newlines_cons (by decide), count]
      rcases List.mem_cons.mp member with rfl | member
      · simp only [endLine]
        omega
      · have bounds := ih more later token member
        omega
  | case7 line c tail noBreak dark noComment noQuote word ih =>
      intro given scanned token member
      obtain ⟨more, later, whole⟩ := bind_eq_ok_iff.mp scanned
      cases whole
      rw [newlines_cons noBreak]
      rcases List.mem_cons.mp member with rfl | member
      · simp only
        omega
      · have bounds := ih more later token member
        rwa [newlines_dropWhile (by decide)] at bounds

end VirtualHosts.Site
