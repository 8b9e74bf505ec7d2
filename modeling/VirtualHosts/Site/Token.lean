import VirtualHosts.Site.Error
import VirtualHosts.Text.Blank

/-!
The tokens of a site file: words, which end at a blank, and quoted strings.  A
number sign where a token could begin starts a comment up to the end of the
line; inside a word it is an ordinary character.
-/

namespace VirtualHosts.Site

open VirtualHosts.Text

structure Token where
  text : String
  line : Nat
  /-- The line of the last character; another one only for a quoted string
  with line breaks in it. -/
  endLine : Nat
  quoted : Bool
  deriving DecidableEq

/-- Whether the token is this word, not quoted. -/
def Token.is (token : Token) (word : String) : Bool :=
  !token.quoted && token.text = word

/-- The text up to the closing quote, and what follows it.  A backslash
escapes a quote or a backslash and otherwise stands for itself. -/
def readQuoted? : List Char → Option (List Char × List Char)
  | [] => none
  | '"' :: rest => some ([], rest)
  | '\\' :: '"' :: rest =>
      (readQuoted? rest).map fun (text, rest) => ('"' :: text, rest)
  | '\\' :: '\\' :: rest =>
      (readQuoted? rest).map fun (text, rest) => ('\\' :: text, rest)
  | c :: rest =>
      (readQuoted? rest).map fun (text, rest) => (c :: text, rest)

def newlines (s : List Char) : Nat :=
  s.count '\n'

def isWordChar (c : Char) : Bool :=
  !isBlank c

theorem readQuoted?_length {s text rest : List Char}
    (read : readQuoted? s = some (text, rest)) :
    rest.length < s.length := by
  fun_induction readQuoted? s generalizing text rest with
  | case1 => simp at read
  | case2 tail =>
      simp only [Option.some.injEq, Prod.mk.injEq] at read
      simp [← read.2]
  | case3 tail ih =>
      simp only [Option.map_eq_some_iff, Prod.exists, Prod.mk.injEq] at read
      obtain ⟨inner, after, read, _, rfl⟩ := read
      have := ih read
      simp only [List.length_cons]
      omega
  | case4 tail ih =>
      simp only [Option.map_eq_some_iff, Prod.exists, Prod.mk.injEq] at read
      obtain ⟨inner, after, read, _, rfl⟩ := read
      have := ih read
      simp only [List.length_cons]
      omega
  | case5 c tail _ _ _ ih =>
      simp only [Option.map_eq_some_iff, Prod.exists, Prod.mk.injEq] at read
      obtain ⟨inner, after, read, _, rfl⟩ := read
      have := ih read
      simp only [List.length_cons]
      omega

/-- The tokens of a text whose first character is on the given line. -/
def scan (line : Nat) (s : List Char) : Except Error (List Token) :=
  match s with
  | [] => .ok []
  | c :: rest =>
      if c = '\n' then scan (line + 1) rest
      else if isBlank c then scan line rest
      else if c = '#' then scan line (rest.dropWhile (· ≠ '\n'))
      else if c = '"' then
        match read : readQuoted? rest with
        | none => .error (.syntaxAt line .unterminatedQuote)
        | some (text, after) => do
            have _shorter := readQuoted?_length read
            let endLine := line + newlines text
            let tokens ← scan endLine after
            return ⟨String.ofList text, line, endLine, true⟩ :: tokens
      else do
        let word := c :: rest.takeWhile isWordChar
        let tokens ← scan line (rest.dropWhile isWordChar)
        return ⟨String.ofList word, line, line, false⟩ :: tokens
termination_by s.length
decreasing_by
  all_goals simp only [List.length_cons]
  · omega
  · omega
  · have := length_dropWhile_le (· ≠ '\n') rest
    omega
  · omega
  · have := length_dropWhile_le isWordChar rest
    omega

def tokens (s : String) : Except Error (List Token) :=
  scan 1 s.toList

end VirtualHosts.Site
