import Mathlib
import VirtualHosts.Proofs.Text.LowerCase
import VirtualHosts.Text.Utf8

/-!
Percent escapes.  Each escape that stands in a text is read once, from the
left, and a percent sign that begins none stands for itself.  A text in which
every percent sign is escaped, and any other bytes as one likes, is read back.
-/

namespace VirtualHosts.Text

/-- Whether a byte is the hexadecimal digit of this value, in either case. -/
def IsDigitOf (value : Nat) (digit : UInt8) : Prop :=
  (value < 10 ∧ digit.toNat = 48 + value) ∨
    (10 ≤ value ∧ value < 16 ∧
      (digit.toNat = 55 + value ∨ digit.toNat = 87 + value))

/-- Whether two digits write a byte. -/
def WritesByte (high low b : UInt8) : Prop :=
  IsDigitOf (b.toNat / 16) high ∧ IsDigitOf (b.toNat % 16) low

/-- Whether a text begins with an escape. -/
def StartsEscape (s : List UInt8) : Prop :=
  ∃ high low rest b, s = 0x25 :: high :: low :: rest ∧ WritesByte high low b

/-- What bytes say once their escapes are read. -/
inductive Unescapes : List UInt8 → List UInt8 → Prop
  | nil : Unescapes [] []
  | escape {high low b : UInt8} {s t : List UInt8}
      (writes : WritesByte high low b) (rest : Unescapes s t) :
      Unescapes (0x25 :: high :: low :: s) (b :: t)
  | plain {b : UInt8} {s t : List UInt8} (bare : ¬StartsEscape (b :: s))
      (rest : Unescapes s t) : Unescapes (b :: s) (b :: t)

/-- Whether the second bytes write the first, with any of them escaped and
every percent sign among those. -/
inductive Escapes : List UInt8 → List UInt8 → Prop
  | nil : Escapes [] []
  | escaped {b high low : UInt8} {s t : List UInt8}
      (writes : WritesByte high low b) (rest : Escapes s t) :
      Escapes (b :: s) (0x25 :: high :: low :: t)
  | plain {b : UInt8} {s t : List UInt8} (noPercent : b ≠ 0x25)
      (rest : Escapes s t) : Escapes (b :: s) (b :: t)

/-! Digits. -/

theorem hexValue_of_isDigitOf {value : Nat} {digit : UInt8}
    (isDigit : IsDigitOf value digit) :
    hexValue (Char.ofNat digit.toNat) = value := by
  unfold hexValue IsDigitOf at *
  simp only [isDigit_iff, toNat_ofNat_of_small digit.toNat_lt]
  split
  · omega
  · split <;> omega

theorem isHexByte_iff {digit : UInt8} :
    isHexByte digit = true ↔ ∃ value < 16, IsDigitOf value digit := by
  simp only [isHexByte, isHexDigit, Bool.or_eq_true, Bool.and_eq_true,
    decide_eq_true_eq, isDigit_iff, toNat_ofNat_of_small digit.toNat_lt]
  constructor
  · rintro ((decimal | small) | large)
    · exact ⟨digit.toNat - 48, by omega, .inl (by omega)⟩
    · exact ⟨digit.toNat - 87, by omega, .inr (by omega)⟩
    · exact ⟨digit.toNat - 55, by omega, .inr (by omega)⟩
  · rintro ⟨value, bound, isDigit⟩
    unfold IsDigitOf at isDigit
    omega

theorem hexByte_of_writesByte {high low b : UInt8}
    (writes : WritesByte high low b) : hexByte high low = b := by
  obtain ⟨first, second⟩ := writes
  rw [hexByte, hexValue_of_isDigitOf first, hexValue_of_isDigitOf second,
    Nat.div_add_mod, UInt8.ofNat_toNat]

theorem isHexByte_of_writesByte {high low b : UInt8}
    (writes : WritesByte high low b) :
    isHexByte high = true ∧ isHexByte low = true := by
  have bound := b.toNat_lt
  exact ⟨isHexByte_iff.mpr ⟨_, by omega, writes.1⟩,
    isHexByte_iff.mpr ⟨_, by omega, writes.2⟩⟩

theorem exists_writesByte {high low : UInt8} (first : isHexByte high = true)
    (second : isHexByte low = true) : ∃ b, WritesByte high low b := by
  obtain ⟨h, small, isHigh⟩ := isHexByte_iff.mp first
  obtain ⟨l, small', isLow⟩ := isHexByte_iff.mp second
  have whole : (UInt8.ofNat (16 * h + l)).toNat = 16 * h + l := by
    rw [UInt8.toNat_ofNat']
    omega
  refine ⟨UInt8.ofNat (16 * h + l), ?_, ?_⟩
  · rw [whole]
    convert isHigh using 1
    omega
  · rw [whole]
    convert isLow using 1
    omega

theorem startsEscape_iff {b high low : UInt8} {rest : List UInt8} :
    StartsEscape (b :: high :: low :: rest) ↔
      b = 0x25 ∧ isHexByte high = true ∧ isHexByte low = true := by
  constructor
  · rintro ⟨_, _, _, written, same, writes⟩
    cases same
    exact ⟨rfl, isHexByte_of_writesByte writes⟩
  · rintro ⟨rfl, first, second⟩
    obtain ⟨written, writes⟩ := exists_writesByte first second
    exact ⟨high, low, rest, written, rfl, writes⟩

theorem length_of_startsEscape {s : List UInt8} (starts : StartsEscape s) :
    3 ≤ s.length := by
  obtain ⟨high, low, rest, b, rfl, _⟩ := starts
  simp

/-! Reading escapes. -/

theorem unescapes_unescape (s : List UInt8) : Unescapes s (unescape s) := by
  fun_induction unescape s with
  | case1 => exact .nil
  | case2 b =>
      refine .plain ?_ .nil
      exact fun starts => absurd (length_of_startsEscape starts) (by simp)
  | case3 b c =>
      refine .plain ?_ (.plain ?_ .nil)
      · exact fun starts => absurd (length_of_startsEscape starts) (by simp)
      · exact fun starts => absurd (length_of_startsEscape starts) (by simp)
  | case4 b high low rest escape ih =>
      obtain ⟨rfl, first, second⟩ := escape
      obtain ⟨written, writes⟩ := exists_writesByte first second
      rw [hexByte_of_writesByte writes]
      exact .escape writes ih
  | case5 b high low rest noEscape ih =>
      exact .plain (startsEscape_iff.not.mpr noEscape) ih

theorem Unescapes.unescape_eq {s t : List UInt8} (reads : Unescapes s t) :
    unescape s = t := by
  induction reads with
  | nil => rfl
  | escape writes _ ih =>
      have digits := isHexByte_of_writesByte writes
      rw [unescape, if_pos ⟨rfl, digits⟩, hexByte_of_writesByte writes, ih]
  | @plain b s t bare _ ih =>
      match s with
      | [] => rw [← ih]; rfl
      | [c] => rw [← ih]; rfl
      | high :: low :: rest =>
          rw [unescape, if_neg (startsEscape_iff.not.mp bare), ih]

/-- Reading escapes does what the rules say and nothing else. -/
theorem unescape_eq_iff {s t : List UInt8} :
    unescape s = t ↔ Unescapes s t := by
  constructor
  · rintro rfl
    exact unescapes_unescape s
  · exact Unescapes.unescape_eq

theorem Escapes.unescapes {s t : List UInt8} (escapes : Escapes s t) :
    Unescapes t s := by
  induction escapes with
  | nil => exact .nil
  | escaped writes _ ih => exact .escape writes ih
  | plain noPercent _ ih =>
      refine .plain ?_ ih
      rintro ⟨_, _, _, _, same, _⟩
      cases same
      exact noPercent rfl

end VirtualHosts.Text
