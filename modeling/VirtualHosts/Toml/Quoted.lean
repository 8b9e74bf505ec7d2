import VirtualHosts.Text.Number
import VirtualHosts.Toml.Layout

/-!
Quoted text.  Between double quotes a backslash begins an escape; between
single quotes every character stands for itself.  Three quotes open a text of
many lines, which may end with one or two quotes of its own.
-/

namespace VirtualHosts.Toml

open VirtualHosts.Text

/-- The character with a code of so many hexadecimal digits. -/
def codePoint? (count : Nat) (s : List Char) :
    Option (Char × List Char) :=
  let digits := s.take count
  if digits.length = count && digits.all isHexDigit then
    let code := ofHexDigits digits
    if code < 0xD800 || (0xDFFF < code && code < 0x110000) then
      some (Char.ofNat code, s.drop count)
    else none
  else none

/-- The character that an escape stands for, after the backslash. -/
def escape? : List Char → Option (Char × List Char)
  | 'b' :: rest => some ('\x08', rest)
  | 't' :: rest => some ('\t', rest)
  | 'n' :: rest => some ('\n', rest)
  | 'f' :: rest => some ('\x0C', rest)
  | 'r' :: rest => some ('\r', rest)
  | '"' :: rest => some ('"', rest)
  | '\\' :: rest => some ('\\', rest)
  | 'u' :: rest => codePoint? 4 rest
  | 'U' :: rest => codePoint? 8 rest
  | _ => none

theorem length_escape? {s rest : List Char} {c : Char}
    (found : escape? s = some (c, rest)) : rest.length < s.length := by
  have code {count : Nat} {t : List Char}
      (found : codePoint? count t = some (c, rest)) :
      rest.length ≤ t.length := by
    unfold codePoint? at found
    simp only at found
    split at found
    · split at found
      · simp only [Option.some.injEq, Prod.mk.injEq] at found
        simp [← found.2]
      · simp at found
    · simp at found
  unfold escape? at found
  split at found
  all_goals first
    | (simp only [Option.some.injEq, Prod.mk.injEq] at found
       simp [← found.2])
    | (have shorter := code found
       simp only [List.length_cons]
       omega)
    | simp at found

def basic? (s : List Char) : Option (List Char × List Char) :=
  match s with
  | [] => none
  | '"' :: rest => some ([], rest)
  | '\\' :: rest =>
      match found : escape? rest with
      | none => none
      | some (c, after) =>
          have _shorter := length_escape? found
          (basic? after).map fun (text, rest) => (c :: text, rest)
  | c :: rest =>
      if isVisible c then
        (basic? rest).map fun (text, rest) => (c :: text, rest)
      else none
termination_by s.length
decreasing_by
  all_goals simp only [List.length_cons]
  all_goals omega

/-- The text up to three double quotes.  A backslash at the end of a line
takes the line break and the blanks and line breaks after it away. -/
def basicLines? (s : List Char) : Option (List Char × List Char) :=
  match s with
  | [] => none
  | '"' :: '"' :: '"' :: '"' :: '"' :: rest => some (['"', '"'], rest)
  | '"' :: '"' :: '"' :: '"' :: rest => some (['"'], rest)
  | '"' :: '"' :: '"' :: rest => some ([], rest)
  | '\\' :: rest =>
      match broken : lineBreak? (skipBlanks rest) with
      | some after =>
          have _shorter := length_lineBreak? broken
          basicLines? (skipBreaks after)
      | none =>
          match found : escape? rest with
          | none => none
          | some (c, after) =>
              have _shorter := length_escape? found
              (basicLines? after).map fun (text, rest) => (c :: text, rest)
  | '\r' :: '\n' :: rest =>
      (basicLines? rest).map fun (text, rest) => ('\n' :: text, rest)
  | c :: rest =>
      if isVisible c || c = '\n' then
        (basicLines? rest).map fun (text, rest) => (c :: text, rest)
      else none
termination_by s.length
decreasing_by
  all_goals simp only [List.length_cons]
  · have := length_skipBreaks_le after
    have := length_dropWhile_le isBlank rest
    simp only [skipBlanks] at _shorter
    omega
  · omega
  · omega
  · omega

def literal? : List Char → Option (List Char × List Char)
  | [] => none
  | '\'' :: rest => some ([], rest)
  | c :: rest =>
      if isVisible c then
        (literal? rest).map fun (text, rest) => (c :: text, rest)
      else none

def literalLines? : List Char → Option (List Char × List Char)
  | [] => none
  | '\'' :: '\'' :: '\'' :: '\'' :: '\'' :: rest =>
      some (['\'', '\''], rest)
  | '\'' :: '\'' :: '\'' :: '\'' :: rest => some (['\''], rest)
  | '\'' :: '\'' :: '\'' :: rest => some ([], rest)
  | '\r' :: '\n' :: rest =>
      (literalLines? rest).map fun (text, rest) => ('\n' :: text, rest)
  | c :: rest =>
      if isVisible c || c = '\n' then
        (literalLines? rest).map fun (text, rest) => (c :: text, rest)
      else none

/-- A line break right after the opening quotes does not count. -/
def afterOpening (s : List Char) : List Char :=
  (lineBreak? s).getD s

def quoted? : Reader (List Char)
  | '"' :: '"' :: '"' :: rest => basicLines? (afterOpening rest)
  | '"' :: rest => basic? rest
  | '\'' :: '\'' :: '\'' :: rest => literalLines? (afterOpening rest)
  | '\'' :: rest => literal? rest
  | _ => none

end VirtualHosts.Toml
