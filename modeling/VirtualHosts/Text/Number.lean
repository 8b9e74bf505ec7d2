/-!
Unsigned numbers written with digits.  A reader refuses an empty text and any
other character; it does not bound the value.
-/

namespace VirtualHosts.Text

def isHexDigit (c : Char) : Bool :=
  c.isDigit || (97 ≤ c.toNat && c.toNat ≤ 102) ||
    (65 ≤ c.toNat && c.toNat ≤ 70)

/-- The value of a hexadecimal digit in either case. -/
def hexValue (c : Char) : Nat :=
  if c.isDigit then c.toNat - 48
  else if 97 ≤ c.toNat then c.toNat - 87
  else c.toNat - 55

/-- The number that hexadecimal digits write, most significant first. -/
def ofHexDigits (digits : List Char) : Nat :=
  digits.foldl (fun value c => 16 * value + hexValue c) 0

def decimal? (s : List Char) : Option Nat :=
  if s.isEmpty then none
  else if s.all Char.isDigit then some (Nat.ofDigitChars 10 s 0)
  else none

def decimal (n : Nat) : String :=
  Nat.repr n

theorem decimal?_decimal (n : Nat) :
    decimal? (decimal n).toList = some n := by
  have digits : (Nat.toDigits 10 n).all Char.isDigit = true := by
    rw [List.all_eq_true]
    intro c member
    exact Nat.isDigit_of_mem_toDigits (by decide) (by decide) member
  have nonempty : (Nat.toDigits 10 n).isEmpty = false := by
    simp [Nat.toDigits_ne_nil]
  simp [decimal?, decimal, Nat.repr, digits, nonempty,
    Nat.ofDigitChars_toDigits]

def hexDigit (n : Nat) : Char :=
  if n < 10 then Char.ofNat (48 + n) else Char.ofNat (87 + n)

/-- Lowercase hexadecimal without leading zeros. -/
def hexadecimal (n : Nat) : List Char :=
  Nat.toDigits 16 n

def hexPair (b : UInt8) : List Char :=
  [hexDigit (b.toNat / 16), hexDigit (b.toNat % 16)]

end VirtualHosts.Text
