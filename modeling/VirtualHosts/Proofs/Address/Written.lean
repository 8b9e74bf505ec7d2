import Mathlib
import VirtualHosts.Address.Ip
import VirtualHosts.Proofs.Text.Digits

/-!
The characters of a written address: hexadecimal digits, dots and colons.
-/

namespace VirtualHosts

open VirtualHosts.Text

namespace Text

/-- What holds of the separator and of every part holds of the joined
text. -/
theorem forall_mem_intercalate {p : Char → Prop} {sep : String}
    {parts : List String} (atSep : ∀ c ∈ sep.toList, p c)
    (atParts : ∀ part ∈ parts, ∀ c ∈ part.toList, p c) :
    ∀ c ∈ (String.intercalate sep parts).toList, p c := by
  induction parts with
  | nil => simp
  | cons part rest ih =>
      have inPart := atParts part List.mem_cons_self
      have inRest := ih fun other member =>
        atParts other (List.mem_cons_of_mem part member)
      cases rest with
      | nil => simpa using inPart
      | cons next more =>
          intro c member
          rw [String.intercalate_cons_cons, String.toList_append,
            String.toList_append, List.mem_append, List.mem_append] at member
          rcases member with (member | member) | member
          · exact inPart c member
          · exact atSep c member
          · exact inRest c member

end Text

namespace Address

def isAddressChar (c : Char) : Bool :=
  isHexDigit c || c = '.' || c = ':'

theorem isAddressChar_of_isHexDigit {c : Char} (digit : isHexDigit c = true) :
    isAddressChar c = true := by
  rw [isAddressChar, digit, Bool.true_or, Bool.true_or]

theorem V4.isAddressChar_text (address : V4) :
    ∀ c ∈ address.text.toList, isAddressChar c = true := by
  have atDot : ∀ c ∈ ".".toList, isAddressChar c = true := by
    simp [isAddressChar]
  refine forall_mem_intercalate atDot fun part member c inPart => ?_
  obtain ⟨octet, -, rfl⟩ := List.mem_map.mp member
  have digit := List.all_eq_true.mp (all_isDigit_decimal octet.toNat) c inPart
  exact isAddressChar_of_isHexDigit (isHexDigit_of_isDigit digit)

namespace V6

theorem isAddressChar_groupsText (groups : List UInt16) :
    ∀ c ∈ (groupsText groups).toList, isAddressChar c = true := by
  have atColon : ∀ c ∈ ":".toList, isAddressChar c = true := by
    simp [isAddressChar]
  refine forall_mem_intercalate atColon fun part member c inPart => ?_
  obtain ⟨group, -, rfl⟩ := List.mem_map.mp member
  rw [groupText, String.toList_ofList] at inPart
  have digit := List.all_eq_true.mp (all_isHexDigit_hexadecimal group.toNat)
  exact isAddressChar_of_isHexDigit (digit c inPart)

theorem isAddressChar_text (address : V6) :
    ∀ c ∈ address.text.toList, isAddressChar c = true := by
  have atLead : ∀ c ∈ "::ffff:".toList, isAddressChar c = true := by
    simp [isAddressChar, isHexDigit]
  have atRun : ∀ c ∈ "::".toList, isAddressChar c = true := by
    simp [isAddressChar]
  intro c member
  unfold text at member
  split at member
  · rename_i short carried
    rw [String.toList_append, List.mem_append] at member
    exact member.elim (atLead c) (short.isAddressChar_text c)
  · dsimp only at member
    split at member
    · exact isAddressChar_groupsText address.groups c member
    · rw [String.toList_append, String.toList_append, List.mem_append,
        List.mem_append] at member
      rcases member with (member | member) | member
      · exact isAddressChar_groupsText _ c member
      · exact atRun c member
      · exact isAddressChar_groupsText _ c member

end V6

theorem Ip.isAddressChar_text (client : Ip) :
    ∀ c ∈ client.text.toList, isAddressChar c = true := by
  cases client with
  | v4 address => exact address.isAddressChar_text
  | v6 address => exact address.isAddressChar_text

end Address

end VirtualHosts
