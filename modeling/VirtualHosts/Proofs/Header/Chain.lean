import Mathlib
import VirtualHosts.Proofs.Address.Written
import VirtualHosts.Proofs.Header.Forwarded
import VirtualHosts.Proofs.Header.Visible
import VirtualHosts.Proofs.Text.Cuts

/-!
The chain of clients that `X-Forwarded-For` lists.  All values list it
together, in order, with commas between the clients and spaces around them.
A client goes to the end of what the first value lists; what later values
list, and what a first value that does not read as text lists, is lost.
-/

namespace VirtualHosts

open VirtualHosts.Address
open VirtualHosts.Text

namespace Text

def trimSpaces (s : List Char) : List Char :=
  (s.dropWhile (· = ' ')).rdropWhile (· = ' ')

theorem trimSpaces_eq_self {s : List Char} (absent : ' ' ∉ s) :
    trimSpaces s = s := by
  have none : ∀ c ∈ s, ¬decide (c = ' ') = true := by
    intro c member same
    exact absent (of_decide_eq_true same ▸ member)
  have front : s.dropWhile (· = ' ') = s := by
    rw [List.dropWhile_eq_self_iff]
    intro nonempty
    exact none _ (List.getElem_mem nonempty)
  rw [trimSpaces, front, List.rdropWhile_eq_self_iff]
  intro nonempty
  exact none _ (List.getLast_mem nonempty)

theorem trimSpaces_cons_space {s : List Char} (absent : ' ' ∉ s) :
    trimSpaces (' ' :: s) = s := by
  have lead : trimSpaces (' ' :: s) = trimSpaces s := by
    rw [trimSpaces, List.dropWhile_cons_of_pos (by simp), trimSpaces]
  rw [lead, trimSpaces_eq_self absent]

end Text

namespace Address

theorem isVisible_of_isAddressChar {c : Char}
    (written : isAddressChar c = true) : isVisible c = true := by
  have dot : '.'.toNat = 46 := rfl
  have colon : ':'.toNat = 58 := rfl
  simp only [isAddressChar, isHexDigit, Bool.or_eq_true, Bool.and_eq_true,
    decide_eq_true_eq, isDigit_iff, ← Char.toNat_inj, dot, colon] at written
  rw [isVisible_iff]
  omega

namespace Ip

theorem isVisible_text (client : Ip) :
    ∀ c ∈ client.text.toList, isVisible c = true := fun c member =>
  isVisible_of_isAddressChar (client.isAddressChar_text c member)

theorem not_mem_text (client : Ip) {c : Char}
    (foreign : isAddressChar c = false) : c ∉ client.text.toList := by
  intro member
  have written := client.isAddressChar_text c member
  rw [foreign] at written
  contradiction

end Ip

end Address

namespace Header

namespace Value

/-- Each byte as a character. -/
def chars (value : Value) : List Char :=
  value.bytes.map fun b => Char.ofNat b.toNat

/-- What the value lists between commas, without the spaces around. -/
def elements (value : Value) : List (List Char) :=
  (pieces ',' value.chars).map trimSpaces

theorem chars_of_text? {value : Value} {text : String}
    (read : value.text? = some text) : value.chars = text.toList := by
  rw [text?] at read
  split at read
  · cases read
    rw [String.toList_ofList, chars]
  · contradiction

theorem exists_chars_of_isVisible {s : String}
    (visible : ∀ c ∈ s.toList, isVisible c = true) :
    ∃ value, ofText? s = some value ∧ value.chars = s.toList := by
  obtain ⟨value, read, bytes⟩ := exists_ofText?_of_isVisible visible
  exact ⟨value, read, by rw [chars, bytes, map_char_map_byteOf visible]⟩

theorem elements_ne_nil (value : Value) : value.elements ≠ [] := by
  rw [elements, ne_eq, List.map_eq_nil_iff]
  exact pieces_ne_nil ',' value.chars

theorem elements_client {value : Value} {client : Ip}
    (written : value.chars = client.text.toList) :
    value.elements = [client.text.toList] := by
  have whole := pieces_eq_singleton (client.not_mem_text (c := ',') rfl)
  rw [elements, written, whole, List.map_singleton,
    trimSpaces_eq_self (client.not_mem_text rfl)]

theorem elements_continued {before value : Value} {client : Ip}
    (written : value.chars =
      before.chars ++ ',' :: ' ' :: client.text.toList) :
    value.elements = before.elements ++ [client.text.toList] := by
  have absent : ',' ∉ ' ' :: client.text.toList := by
    simp [client.not_mem_text (c := ',') rfl]
  rw [elements, written, pieces_append_sep, pieces_eq_singleton absent,
    List.map_append, List.map_singleton,
    trimSpaces_cons_space (client.not_mem_text rfl), elements]

end Value

namespace Fields

/-- What all values list together. -/
def chain (fields : Fields) : List (List Char) :=
  (fields.values .forwardedFor).flatMap Value.elements

/-- The first value, if it reads as text. -/
def readable? (fields : Fields) : Option Value :=
  (fields.get? .forwardedFor).filter fun first => first.text?.isSome

def carried (fields : Fields) : List (List Char) :=
  fields.readable?.toList.flatMap Value.elements

/-- Whether there is nothing to lose: one value that reads as text, or
none. -/
def IsCarried (fields : Fields) : Prop :=
  fields.values .forwardedFor = fields.readable?.toList

variable {fields : Fields} {client : Ip}

theorem isCarried_iff :
    fields.IsCarried ↔ (fields.values .forwardedFor).length ≤ 1 ∧
      ∀ value ∈ fields.values .forwardedFor, value.text?.isSome := by
  rw [IsCarried, readable?, get?_eq_head?]
  cases fields.values .forwardedFor with
  | nil => simp
  | cons first more =>
      rw [List.head?_cons, Option.filter_some]
      split
      · rename_i reads
        cases more with
        | nil => simp [reads]
        | cons second rest => simp
      · rename_i unread
        simp [unread]

theorem carried_prefix (fields : Fields) : fields.carried <+: fields.chain := by
  rw [carried, chain, readable?, get?_eq_head?]
  cases fields.values .forwardedFor with
  | nil => exact List.prefix_rfl
  | cons first more =>
      rw [List.head?_cons, Option.filter_some]
      split
      · exact ⟨more.flatMap Value.elements, by simp⟩
      · exact List.nil_prefix

theorem carried_eq_chain_iff :
    fields.carried = fields.chain ↔ fields.IsCarried := by
  rw [carried, chain, IsCarried, readable?, get?_eq_head?]
  cases fields.values .forwardedFor with
  | nil => simp
  | cons first more =>
      rw [List.head?_cons, Option.filter_some]
      split
      · cases more with
        | nil => simp
        | cons second rest => simp [second.elements_ne_nil]
      · simp [first.elements_ne_nil]

theorem readable?_eq_some_iff {first : Value} :
    fields.readable? = some first ↔
      fields.get? .forwardedFor = some first ∧ first.text?.isSome := by
  rw [readable?, Option.filter_eq_some_iff]

theorem readable?_eq_none
    (unread : (fields.get? .forwardedFor).bind Value.text? = none) :
    fields.readable? = none := by
  rw [readable?, Option.filter_eq_none_iff]
  intro first got
  rw [got, Option.bind_some] at unread
  simp [unread]

def continued (fields : Fields) (client : Ip) : String :=
  match (fields.get? .forwardedFor).bind Value.text? with
  | some before => before ++ ", " ++ client.text
  | none => client.text

theorem addClient_eq (fields : Fields) (client : Ip) :
    fields.addClient client =
      match Value.ofText? (fields.continued client) with
      | some value => fields.set .forwardedFor value
      | none => fields := rfl

theorem isVisible_continued (fields : Fields) (client : Ip) :
    ∀ c ∈ (fields.continued client).toList, isVisible c = true := by
  intro c member
  rw [continued] at member
  split at member
  · rename_i before chained
    obtain ⟨first, -, reads⟩ := Option.bind_eq_some_iff.mp chained
    simp only [String.toList_append, List.mem_append] at member
    rcases member with (member | member) | member
    · exact Value.isVisible_of_text? reads c member
    · revert c
      simp [isVisible]
    · exact client.isVisible_text c member
  · exact client.isVisible_text c member

theorem elements_of_continued {value : Value}
    (chars : value.chars = (fields.continued client).toList) :
    value.elements = fields.carried ++ [client.text.toList] := by
  rw [continued] at chars
  split at chars
  · rename_i before chained
    obtain ⟨first, got, reads⟩ := Option.bind_eq_some_iff.mp chained
    have readable : fields.readable? = some first :=
      readable?_eq_some_iff.mpr ⟨got, by rw [reads, Option.isSome_some]⟩
    rw [carried, readable, Option.toList_some, List.flatMap_singleton]
    apply Value.elements_continued
    rw [chars, Value.chars_of_text? reads]
    simp [String.toList_append]
  · rename_i unread
    -- An unreadable first value is dropped, and later values with it.
    rw [carried, readable?_eq_none unread]
    exact Value.elements_client chars

/-- A client's written address can always stand in a field, also behind
another text. -/
theorem exists_addClient (fields : Fields) (client : Ip) :
    ∃ value, fields.addClient client = fields.set .forwardedFor value ∧
      value.elements = fields.carried ++ [client.text.toList] := by
  obtain ⟨value, read, chars⟩ :=
    Value.exists_chars_of_isVisible (fields.isVisible_continued client)
  refine ⟨value, ?_, elements_of_continued chars⟩
  rw [addClient_eq, read]

theorem values_addForwarded_client (fields : Fields) (client : Ip) :
    (fields.addForwarded (some client)).values .forwardedFor =
      (fields.addClient client).values .forwardedFor := by
  rw [addForwarded_eq, values_addForwardedHost,
    if_neg fun both => absurd both.1 (by decide), values_set,
    if_neg (by decide), addClient?]

/-- What `before` and `after` have to do with each other if one more client was
told of in between. -/
structure Told (before after : Fields) (client : Ip) : Prop where
  single : (after.values .forwardedFor).length = 1
  chain_eq : after.chain = before.carried ++ [client.text.toList]
  carried_prefix : before.carried <+: before.chain
  whole_iff :
    after.chain = before.chain ++ [client.text.toList] ↔
      (before.values .forwardedFor).length ≤ 1 ∧
        ∀ value ∈ before.values .forwardedFor, value.text?.isSome
  others : ∀ name ∉ forwardedNames, after.values name = before.values name

/-- Nothing is lost exactly when there is at most one value and it reads as
text.  What is lost is the end of the chain, and no other field. -/
theorem addForwarded_told (fields : Fields) (client : Ip) :
    Told fields (fields.addForwarded (some client)) client := by
  obtain ⟨value, added, elements⟩ := exists_addClient fields client
  have values :
      (fields.addForwarded (some client)).values .forwardedFor = [value] := by
    rw [values_addForwarded_client, added, values_set, if_pos rfl]
  have chain_eq : (fields.addForwarded (some client)).chain =
      fields.carried ++ [client.text.toList] := by
    rw [chain, values, List.flatMap_singleton, elements]
  refine ⟨by rw [values]; rfl, chain_eq, carried_prefix fields, ?_, ?_⟩
  · rw [chain_eq, List.append_left_inj, carried_eq_chain_iff, isCarried_iff]
  · intro name other
    exact values_addForwarded_of_not_mem fields (some client) other

def twoLines : Fields :=
  (Fields.empty.add .forwardedFor (.literal "10.0.0.1")).add .forwardedFor
    (.literal "10.0.0.2")

theorem addForwarded_drops_second_line :
    let client := Ip.v4 ⟨192, 0, 2, 1⟩
    let after := twoLines.addForwarded (some client)
    twoLines.chain = ["10.0.0.1".toList, "10.0.0.2".toList] ∧
      after.chain = ["10.0.0.1".toList, "192.0.2.1".toList] ∧
      after.chain ≠ twoLines.chain ++ [client.text.toList] := by
  decide +kernel

end Fields

end Header

end VirtualHosts
