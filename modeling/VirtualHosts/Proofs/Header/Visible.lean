import Mathlib
import VirtualHosts.Header.Value
import VirtualHosts.Proofs.Text.LowerCase

/-!
Characters that can stand in a text read from a field, and the values that
read as text: visible ASCII characters, spaces and tabs.
-/

namespace VirtualHosts

open VirtualHosts.Text

namespace Text

/-- Whether a character can stand in a text that is read from a field. -/
def isVisible (c : Char) : Bool :=
  c = '\t' || (32 ≤ c.toNat && c.toNat < 127)

theorem isVisible_iff {c : Char} :
    isVisible c = true ↔ c.toNat = 9 ∨ (32 ≤ c.toNat ∧ c.toNat < 127) := by
  have tab : '\t'.toNat = 9 := rfl
  simp only [isVisible, Bool.or_eq_true, Bool.and_eq_true,
    decide_eq_true_eq, ← Char.toNat_inj, tab]

theorem isVisible_toLower {c : Char} (visible : isVisible c = true) :
    isVisible c.toLower = true := by
  rw [isVisible_iff] at visible ⊢
  rw [toNat_toLower]
  split <;> omega

theorem toNat_lt_of_isVisible {c : Char} (visible : isVisible c = true) :
    c.toNat < 127 := by
  rw [isVisible_iff] at visible
  omega

theorem utf8_eq_flatMap (s : String) :
    utf8 s = s.toList.flatMap String.utf8EncodeChar := by
  have written : s.toByteArray = s.toList.utf8Encode := by
    rw [← String.toByteArray_ofList, String.ofList_toList]
  rw [utf8, written, List.utf8Encode, List.data_toByteArray]

end Text

/-! Values that read as text. -/

namespace Header.Value

theorem isVisibleByte_iff {b : UInt8} :
    isVisibleByte b = true ↔ isVisible (Char.ofNat b.toNat) = true := by
  rw [isVisible_iff, toNat_ofNat_of_small b.toNat_lt]
  simp only [isVisibleByte, Bool.or_eq_true, Bool.and_eq_true,
    decide_eq_true_eq, beq_iff_eq, ← UInt8.toNat_inj]
  rfl

theorem isVisible_of_text? {value : Value} {text : String}
    (read : value.text? = some text) :
    ∀ c ∈ text.toList, isVisible c = true := by
  rw [text?] at read
  split at read
  · rename_i visible
    cases read
    intro c member
    rw [String.toList_ofList] at member
    obtain ⟨b, inBytes, rfl⟩ := List.mem_map.mp member
    exact isVisibleByte_iff.mp (List.all_eq_true.mp visible b inBytes)
  · contradiction

/-- The byte that writes a visible character. -/
def byteOf (c : Char) : UInt8 :=
  UInt8.ofNat c.toNat

theorem char_byteOf {c : Char} (visible : isVisible c = true) :
    Char.ofNat (byteOf c).toNat = c := by
  have small := toNat_lt_of_isVisible visible
  have same : (byteOf c).toNat = c.toNat := by
    rw [byteOf, UInt8.toNat_ofNat']
    omega
  rw [same, Char.ofNat_toNat]

theorem utf8EncodeChar_of_isVisible {c : Char} (visible : isVisible c = true) :
    String.utf8EncodeChar c = [byteOf c] := by
  have ascii := toNat_lt_of_isVisible visible
  have short : c.toNat ≤ 127 := by omega
  rw [String.utf8EncodeChar]
  exact if_pos short

/-- A visible text has one byte a character. -/
theorem utf8_eq_map {s : String}
    (visible : ∀ c ∈ s.toList, isVisible c = true) :
    utf8 s = s.toList.map byteOf := by
  rw [utf8_eq_flatMap, List.map_eq_flatMap]
  refine List.flatMap_congr fun c member => ?_
  exact utf8EncodeChar_of_isVisible (visible c member)

theorem isValueByte_of_isVisibleByte {b : UInt8}
    (visible : isVisibleByte b = true) : isValueByte b = true := by
  simp only [isVisibleByte, isValueByte, Bool.or_eq_true, Bool.and_eq_true,
    decide_eq_true_eq, beq_iff_eq, bne_iff_ne, ne_eq,
    ← UInt8.toNat_inj] at visible ⊢
  rcases visible with tab | bounds
  · exact Or.inl tab
  · refine Or.inr ⟨bounds.1, ?_⟩
    intro same
    rw [same] at bounds
    exact absurd bounds.2 (by decide)

theorem isVisibleByte_byteOf {c : Char} (visible : isVisible c = true) :
    isVisibleByte (byteOf c) = true := by
  rw [isVisibleByte_iff, char_byteOf visible]
  exact visible

theorem all_isValueByte_map_byteOf {s : List Char}
    (visible : ∀ c ∈ s, isVisible c = true) :
    (s.map byteOf).all isValueByte = true := by
  rw [List.all_map, List.all_eq_true]
  intro c member
  exact isValueByte_of_isVisibleByte (isVisibleByte_byteOf (visible c member))

theorem map_char_map_byteOf {s : List Char}
    (visible : ∀ c ∈ s, isVisible c = true) :
    (s.map byteOf).map (fun b => Char.ofNat b.toNat) = s := by
  rw [List.map_map]
  exact (List.map_congr_left fun c member =>
    char_byteOf (visible c member)).trans (List.map_id s)

theorem exists_text?_of_isVisible {s : List Char}
    (visible : ∀ c ∈ s, isVisible c = true) :
    ∃ value : Value, value.text? = some (String.ofList s) := by
  have readable : (s.map byteOf).all isVisibleByte = true := by
    rw [List.all_map, List.all_eq_true]
    intro c member
    exact isVisibleByte_byteOf (visible c member)
  refine ⟨⟨s.map byteOf, all_isValueByte_map_byteOf visible⟩, ?_⟩
  rw [text?, if_pos readable, map_char_map_byteOf visible]

/-- A visible text is never refused as a value. -/
theorem exists_ofText?_of_isVisible {s : String}
    (visible : ∀ c ∈ s.toList, isVisible c = true) :
    ∃ value, ofText? s = some value ∧
      value.bytes = s.toList.map byteOf := by
  rw [ofText?, utf8_eq_map visible]
  exact ⟨_, dif_pos (all_isValueByte_map_byteOf visible), rfl⟩

end Header.Value

end VirtualHosts
