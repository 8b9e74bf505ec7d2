import Mathlib
import VirtualHosts.Text.Number

/-!
The characters that numbers are written with.
-/

namespace VirtualHosts.Text

theorem isHexDigit_of_isDigit {c : Char} (digit : c.isDigit = true) :
    isHexDigit c = true := by
  rw [isHexDigit, digit, Bool.true_or, Bool.true_or]

theorem isHexDigit_digitChar :
    ∀ digit < 16, isHexDigit (Nat.digitChar digit) = true := by
  decide

theorem all_isDigit_decimal (n : Nat) :
    (decimal n).toList.all Char.isDigit = true := by
  rw [List.all_eq_true]
  intro c member
  rw [decimal, Nat.repr, String.toList_ofList] at member
  exact Nat.isDigit_of_mem_toDigits (by decide) (by decide) member

theorem all_isHexDigit_hexadecimal (n : Nat) :
    (hexadecimal n).all isHexDigit = true := by
  induction n using Nat.strong_induction_on with
  | _ n ih =>
      rw [hexadecimal, Nat.toDigits_eq_if (by decide)]
      split
      · rename_i small
        simpa using isHexDigit_digitChar n small
      · rename_i large
        have front : (hexadecimal (n / 16)).all isHexDigit = true :=
          ih (n / 16) (by omega)
        have last := isHexDigit_digitChar (n % 16) (Nat.mod_lt n (by decide))
        rw [hexadecimal] at front
        simp only [List.all_append, front, List.all_cons, last, List.all_nil,
          Bool.and_self]

end VirtualHosts.Text
