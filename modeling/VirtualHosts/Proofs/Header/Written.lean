import Mathlib
import VirtualHosts.Header.Rule
import VirtualHosts.Proofs.Bind
import VirtualHosts.Proofs.Text.LowerCase

/-!
Header names and values are read from the texts that write them, and so are
rules from their sign, name and value.
-/

namespace VirtualHosts.Header

open VirtualHosts.Text

theorem bounds_of_isNameChar {c : Char} (valid : isNameChar c = true) :
    33 ≤ c.toNat ∧ c.toNat ≤ 126 ∧ ¬(65 ≤ c.toNat ∧ c.toNat ≤ 90) := by
  have signs : ∀ sign ∈ nameSigns, 33 ≤ sign.toNat ∧ sign.toNat ≤ 126 ∧
      ¬(65 ≤ sign.toNat ∧ sign.toNat ≤ 90) := by
    simp [nameSigns]
  have kinds : (97 ≤ c.toNat ∧ c.toNat ≤ 122) ∨ c.isDigit = true ∨
      c ∈ nameSigns := by
    simpa [isNameChar, or_assoc] using valid
  rcases kinds with letter | digit | sign
  · omega
  · rw [isDigit_iff] at digit
    omega
  · exact signs c sign

theorem toLower_of_isNameChar {c : Char} (valid : isNameChar c = true) :
    c.toLower = c :=
  toLower_eq_self_iff.mpr (bounds_of_isNameChar valid).2.2

theorem isBlank_of_isNameChar {c : Char} (valid : isNameChar c = true) :
    isBlank c = false := by
  have bounds := bounds_of_isNameChar valid
  rw [Bool.eq_false_iff]
  rw [isBlank]
  simp only [ne_eq, Bool.or_eq_true, Bool.and_eq_true, decide_eq_true_eq,
    beq_iff_eq]
  omega

namespace Name

theorem isNameChar_of_mem {name : Name} {c : Char}
    (member : c ∈ name.text.toList) : isNameChar c = true := by
  have valid := name.isName_text
  simp only [isName, Bool.and_eq_true, List.all_eq_true] at valid
  exact valid.2 c member

@[simp] theorem ofText?_text (name : Name) : ofText? name.text = some name := by
  have lowercase : lower name.text.toList = name.text.toList :=
    lower_eq_self fun c member =>
      toLower_of_isNameChar (isNameChar_of_mem member)
  rw [ofText?]
  simp [lowercase, name.isName_text]

end Name

namespace Value

theorem ofText?_of_ofUtf8? {value : Value} {s : String}
    (written : ofUtf8? value.bytes = some s) : ofText? s = some value := by
  rw [ofText?, ofBytes?]
  rw [← ofUtf8?_eq_some_iff.mp written, dif_pos value.isValue_bytes]

end Value

namespace Rule

theorem readName_text (name : Name) : readName name.text = .ok name := by
  simp [readName]

theorem readValue_of_ofUtf8? (field : String) {value : Value} {s : String}
    (written : ofUtf8? value.bytes = some s) :
    readValue field s = .ok value := by
  simp [readValue, Value.ofText?_of_ofUtf8? written]

theorem read_set (name : Name) {value : Value} {s : String}
    (written : ofUtf8? value.bytes = some s) :
    read (String.ofList ('>' :: name.text.toList)) (some s) =
      .ok (.set name value) := by
  simp only [read, String.toList_ofList, splitField, String.ofList_toList,
    readSet, readName_text, readValue_of_ofUtf8? _ written, ok_bind]
  rfl

theorem read_add (name : Name) {value : Value} {s : String}
    (written : ofUtf8? value.bytes = some s) :
    read (String.ofList ('+' :: name.text.toList)) (some s) =
      .ok (.add name value) := by
  simp only [read, String.toList_ofList, splitField, String.ofList_toList,
    readAdd, readName_text, readValue_of_ofUtf8? _ written, ok_bind]
  rfl

theorem read_delete (name : Name) :
    read (String.ofList ('-' :: name.text.toList)) none =
      .ok (.delete name) := by
  simp only [read, String.toList_ofList, splitField, String.ofList_toList,
    readDelete, readName_text, ok_bind]
  rfl

end Rule

end VirtualHosts.Header
