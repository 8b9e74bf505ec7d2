import VirtualHosts.Text.Number

/-!
Texts as bytes and back, and percent escapes.  Reading bytes as text accepts
exactly the encodings of texts; a percent sign that does not begin an escape
stands for itself.
-/

namespace VirtualHosts.Text

def utf8 (s : String) : List UInt8 :=
  s.toByteArray.data.toList

def ofUtf8? (bytes : List UInt8) : Option String :=
  String.fromUTF8? ⟨bytes.toArray⟩

def hexByte (high low : UInt8) : UInt8 :=
  UInt8.ofNat (16 * hexValue (Char.ofNat high.toNat) +
    hexValue (Char.ofNat low.toNat))

def isHexByte (b : UInt8) : Bool :=
  isHexDigit (Char.ofNat b.toNat)

/-- Replaces each percent sign and the two hexadecimal digits after it by the
byte they write. -/
def unescape : List UInt8 → List UInt8
  | [] => []
  | [b] => [b]
  | [b, c] => [b, c]
  | b :: high :: low :: rest =>
      if b = 0x25 ∧ isHexByte high ∧ isHexByte low then
        hexByte high low :: unescape rest
      else b :: unescape (high :: low :: rest)

theorem ofUtf8?_eq_some_iff {bytes : List UInt8} {s : String} :
    ofUtf8? bytes = some s ↔ bytes = utf8 s := by
  unfold ofUtf8? utf8 String.fromUTF8?
  split
  · constructor
    · intro same
      simp only [String.fromUTF8, Option.some.injEq] at same
      subst same
      simp
    · rintro rfl
      simp [String.fromUTF8]
  · rename_i invalid
    constructor
    · simp
    · rintro rfl
      exact absurd s.isValidUTF8 (by simpa using invalid)

@[simp] theorem ofUtf8?_utf8 (s : String) : ofUtf8? (utf8 s) = some s :=
  ofUtf8?_eq_some_iff.mpr rfl

end VirtualHosts.Text
