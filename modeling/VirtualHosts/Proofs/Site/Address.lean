import Mathlib
import VirtualHosts.Proofs.Bind
import VirtualHosts.Proofs.Host.Stability
import VirtualHosts.Site.Address

/-!
Site addresses and host keys.  Two readers take the host out of a text: the one
for addresses checks the port and splits a text where the one for keys does.
Where a text has a key, the host of the address has the key of that key.
-/

namespace VirtualHosts.Site

open VirtualHosts.Address
open VirtualHosts.Host
open VirtualHosts.Text

theorem decimal?_eq_some {s : List Char} {value : Nat}
    (read : decimal? s = some value) :
    s ≠ [] ∧ s.all Char.isDigit = true := by
  rw [decimal?] at read
  split at read
  · contradiction
  · rename_i nonempty
    split at read
    · rename_i digital
      exact ⟨by simpa using nonempty, digital⟩
    · contradiction

theorem ends_in_digit_of_port? {s : List Char} {port : UInt16}
    (read : port? s = some port) :
    ∃ c ∈ s.getLast?, c.isDigit = true := by
  have digits_end : ∀ {digits : List Char} {value : Nat},
      decimal? digits = some value →
        ∃ c ∈ digits.getLast?, c.isDigit = true := by
    intro digits value found
    obtain ⟨nonempty, digital⟩ := decimal?_eq_some found
    refine ⟨digits.getLast nonempty, List.getLast?_eq_getLast_of_ne_nil nonempty, ?_⟩
    exact List.all_eq_true.mp digital _ (List.getLast_mem nonempty)
  unfold port? at read
  simp only at read
  split at read
  · rename_i value found
    split at found
    · obtain ⟨c, last, digit⟩ := digits_end found
      refine ⟨c, ?_, digit⟩
      simp only [Option.mem_def] at last ⊢
      rw [List.getLast?_cons, last]
      rfl
    · exact digits_end found
  · contradiction

theorem portAt_eq_ok {line : Nat} {s : List Char} {port : UInt16}
    (read : portAt line s = .ok port) : port? s = some port ∧ port ≠ 0 := by
  rw [portAt] at read
  split at read
  · rename_i value found
    split at read
    · contradiction
    · rename_i nonzero
      cases read
      exact ⟨found, nonzero⟩
  · contradiction

/-! Splitting an address at its port. -/

theorem splitPort_unbracketed (line : Nat) {s : List Char}
    (unbracketed : s.head? ≠ some '[') :
    splitPort line s =
      match cutLast? ':' s with
      | none => .ok (s, none)
      | some (host, port) => do
          let port ← portAt line port
          return (host, some port) := by
  unfold splitPort
  split
  · simp at unbracketed
  · rfl

theorem splitPort_colon {line : Nat} {front after host : List Char}
    {port? : Option UInt16}
    (unbracketed : (front ++ ':' :: after).head? ≠ some '[')
    (last : ':' ∉ after)
    (split : splitPort line (front ++ ':' :: after) = .ok (host, port?)) :
    host = front ∧ ∃ port, portAt line after = .ok port := by
  rw [splitPort_unbracketed line unbracketed, cutLast?_append front last]
    at split
  obtain ⟨port, read, same⟩ := bind_eq_ok_iff.mp split
  cases same
  exact ⟨rfl, port, read⟩

theorem splitPort_no_colon {line : Nat} {s host : List Char}
    {port? : Option UInt16} (unbracketed : s.head? ≠ some '[')
    (noColon : ':' ∉ s) (split : splitPort line s = .ok (host, port?)) :
    host = s := by
  rw [splitPort_unbracketed line unbracketed, cutLast?_eq_none noColon]
    at split
  cases split
  rfl

theorem splitPort_bracketed {line : Nat} {inner rest host : List Char}
    {port? : Option UInt16} (closed : ']' ∉ inner)
    (split : splitPort line ('[' :: (inner ++ ']' :: rest)) =
      .ok (host, port?)) :
    host = '[' :: inner ++ [']'] := by
  rw [splitPort] at split
  simp only [cutFirst?_append closed] at split
  split at split
  · cases split
    rfl
  · obtain ⟨port, _, same⟩ := bind_eq_ok_iff.mp split
    cases same
    rfl
  · contradiction

/-- A text that ends in a closing bracket has no port after its last colon. -/
theorem splitPort_open_end {line : Nat} {front host : List Char}
    {port? : Option UInt16}
    (unbracketed : (front ++ [']']).head? ≠ some '[')
    (split : splitPort line (front ++ [']']) = .ok (host, port?)) :
    host = front ++ [']'] := by
  cases cut : cutLast? ':' (front ++ [']']) with
  | none =>
      exact splitPort_no_colon unbracketed (not_mem_of_cutLast?_eq_none cut)
        split
  | some parts =>
      exfalso
      obtain ⟨before, after⟩ := parts
      have shape := cutLast?_sound cut
      rw [shape] at split unbracketed
      obtain ⟨_, port, read⟩ :=
        splitPort_colon unbracketed (not_mem_of_cutLast? cut) split
      obtain ⟨c, last, digit⟩ :=
        ends_in_digit_of_port? (portAt_eq_ok read).1
      have ends := congrArg List.getLast? shape
      rw [List.getLast?_concat, List.getLast?_append, List.getLast?_cons,
        Option.mem_def.mp last] at ends
      cases ends
      contradiction

theorem unbracketed_blanks {lead rest : List Char} (blank : AllBlank lead)
    (someBlank : lead ≠ []) : (lead ++ rest).head? ≠ some '[' := by
  intro bracket
  obtain ⟨c, more, rfl⟩ := List.exists_cons_of_ne_nil someBlank
  simp only [List.cons_append, List.head?_cons, Option.some.injEq] at bracket
  have isBlank := blank c List.mem_cons_self
  rw [bracket] at isBlank
  exact absurd isBlank (by decide)

/-- What is split from blanks and a host without a colon. -/
theorem splitPort_blanks_plain {line : Nat}
    {lead name port host : List Char} {port? : Option UInt16}
    (blank : AllBlank lead) (isPlain : IsPlain name)
    (suffix : isPortSuffix port = true)
    (split : splitPort line (lead ++ (name ++ port)) = .ok (host, port?)) :
    host = lead ++ name := by
  have noColon : ':' ∉ lead := by
    intro member
    exact absurd (blank ':' member) (by decide)
  have begins : (lead ++ (name ++ port)).head? ≠ some '[' := by
    by_cases noBlank : lead = []
    · rw [noBlank, List.nil_append]
      exact unbracketed_append isPlain suffix
    · exact unbracketed_blanks blank noBlank
  rcases isPortSuffix_cases suffix with rfl | ⟨digits, rfl, digital⟩
  · rw [List.append_nil] at split begins
    apply splitPort_no_colon begins _ split
    simp [noColon, isPlain.noColon]
  · rw [← List.append_assoc] at split begins
    exact (splitPort_colon begins (not_mem_of_all digital ':' rfl) split).1

/-- What is split from blanks and a host in brackets. -/
theorem splitPort_blanks_bracketed {line : Nat}
    {lead inner port host : List Char} {port? : Option UInt16}
    (blank : AllBlank lead) (closed : ']' ∉ inner)
    (suffix : isPortSuffix port = true)
    (split : splitPort line (lead ++ '[' :: (inner ++ ']' :: port)) =
      .ok (host, port?)) :
    host = lead ++ ('[' :: inner ++ [']']) := by
  by_cases noBlank : lead = []
  · subst noBlank
    exact splitPort_bracketed closed split
  -- After a blank the bracket opens nothing, so the last colon counts.
  rcases isPortSuffix_cases suffix with rfl | ⟨digits, rfl, digital⟩
  · have ends : lead ++ '[' :: (inner ++ [']']) =
        (lead ++ '[' :: inner) ++ [']'] := by simp
    rw [ends] at split
    rw [splitPort_open_end _ split]
    · simp
    · rw [List.append_assoc]
      exact unbracketed_blanks blank noBlank
  · have ends : lead ++ '[' :: (inner ++ ']' :: ':' :: digits) =
        (lead ++ ('[' :: inner ++ [']'])) ++ ':' :: digits := by simp
    rw [ends] at split
    refine (splitPort_colon ?_ (not_mem_of_all digital ':' rfl) split).1
    rw [List.append_assoc]
    exact unbracketed_blanks blank noBlank

theorem host_of_splitPort {line : Nat} {s host key : List Char}
    {port? : Option UInt16} (firm : ¬EndsBlank s)
    (split : splitPort line s = .ok (host, port?))
    (read : keyOf? s = some key) :
    ∃ lead core, AllBlank lead ∧ dropFinal '.' host = lead ++ core ∧
      key = lower core := by
  obtain ⟨lead, blank, shape⟩ := exists_blanks_append_trim firm
  obtain ⟨name, named, nonempty, keyShape⟩ := keyOf?_eq_some_iff.mp read
  rw [shape] at split
  cases named with
  | @plain name port text suffix isPlain =>
      have someName : name ≠ [] := by
        intro same
        subst same
        exact nonempty rfl
      rw [text] at split
      refine ⟨lead, dropFinal '.' name, blank, ?_, keyShape⟩
      rw [splitPort_blanks_plain blank isPlain suffix split,
        dropFinal_append lead someName]
  | @bracketed inner port text suffix closed =>
      rw [text] at split
      rw [dropFinal_bracketed] at keyShape
      refine ⟨lead, '[' :: inner ++ [']'], blank, ?_, keyShape⟩
      rw [splitPort_blanks_bracketed blank closed suffix split,
        dropFinal_append lead (by simp), dropFinal_bracketed]

/-! The host of a site address. -/

/-- An address without the plain scheme before it, in whatever case. -/
def withoutPlainScheme (address : List Char) : List Char :=
  if (dropLead? plainScheme (lower address)).isSome then
    address.drop plainScheme.length
  else address

theorem withoutPlainScheme_suffix (address : List Char) :
    withoutPlainScheme address <:+ address := by
  rw [withoutPlainScheme]
  split
  · exact List.drop_suffix _ address
  · exact List.suffix_rfl

theorem withoutScheme_plain {line : Nat} {raw : String}
    {address rest : List Char}
    (plain : dropLead? plainScheme (lower address) = some rest) :
    withoutScheme line raw (lower address) =
      .ok (lower (withoutPlainScheme address)) := by
  have lowered : lower (address.drop plainScheme.length) = rest := by
    have shape := dropLead?_eq_some_iff.mp plain
    unfold lower at shape ⊢
    rw [List.map_drop, shape, List.drop_left]
  rw [withoutScheme, withoutPlainScheme]
  rw [plain, Option.isSome_some, if_pos rfl, lowered]

theorem withoutScheme_bare {line : Nat} {raw : String}
    {address : List Char}
    (bare : dropLead? plainScheme (lower address) = none)
    (noSlash : '/' ∉ lower address) :
    withoutScheme line raw (lower address) =
      .ok (lower (withoutPlainScheme address)) := by
  have noTls : dropLead? tlsScheme (lower address) = none :=
    dropLead?_eq_none (by decide) noSlash
  have noMark : containsText schemeMark (lower address) = false :=
    containsText_eq_false (by decide) noSlash
  rw [withoutScheme, withoutPlainScheme]
  simp [bare, noTls, noMark]

theorem withoutScheme_eq_ok {line : Nat} {raw : String}
    {address rest : List Char}
    (read : withoutScheme line raw (lower address) = .ok rest) :
    rest = lower (withoutPlainScheme address) := by
  cases plain : dropLead? plainScheme (lower address) with
  | some after =>
      rw [withoutScheme_plain plain] at read
      cases read
      rfl
  | none =>
      rw [withoutScheme] at read
      rw [plain] at read
      simp only at read
      split at read
      · contradiction
      · split at read
        · contradiction
        · cases read
          simp [withoutPlainScheme, plain]

theorem siteHost_eq_ok_iff {line : Nat} {address : List Char}
    {host : String} :
    siteHost line address = .ok host ↔
      '/' ∉ lower (withoutPlainScheme address) ∧
      '*' ∉ lower (withoutPlainScheme address) ∧
      ∃ front port?,
        splitPort line (lower (withoutPlainScheme address)) =
          .ok (front, port?) ∧
        dropFinal '.' front ≠ [] ∧
        host = String.ofList (dropFinal '.' front) := by
  rw [siteHost]
  simp only
  constructor
  · intro read
    obtain ⟨rest, schemeless, read⟩ := bind_eq_ok_iff.mp read
    have same := withoutScheme_eq_ok schemeless
    subst same
    split at read
    · contradiction
    rename_i noSlash
    split at read
    · contradiction
    rename_i noStar
    obtain ⟨⟨front, port?⟩, split, read⟩ := bind_eq_ok_iff.mp read
    simp only at read
    split at read
    · contradiction
    rename_i nonempty
    cases read
    exact ⟨by simpa using noSlash, by simpa using noStar, front, port?, split,
      by simpa using nonempty, rfl⟩
  · intro holds
    obtain ⟨noSlash, noStar, front, port?, split, nonempty, rfl⟩ := holds
    have schemeless :
        withoutScheme line (String.ofList address) (lower address) =
          .ok (lower (withoutPlainScheme address)) := by
      cases plain : dropLead? plainScheme (lower address) with
      | some after => exact withoutScheme_plain plain
      | none =>
          apply withoutScheme_bare plain
          simpa [withoutPlainScheme, plain] using noSlash
    rw [schemeless, ok_bind, if_neg (by simpa using noSlash),
      if_neg (by simpa using noStar), split, ok_bind]
    simp [nonempty]

/-- The host of an address without blanks at its end has the key of the key
that the address has without its scheme. -/
theorem key?_siteHost {line : Nat} {address : List Char}
    {host key : String} (firm : ¬EndsBlank address)
    (named : siteHost line address = .ok host)
    (read : key? (String.ofList (withoutPlainScheme address)) = some key) :
    key? host = key? key := by
  obtain ⟨_, _, front, port?, split, _, rfl⟩ := siteHost_eq_ok_iff.mp named
  rw [key?_eq_some_iff, String.toList_ofList, ← keyOf?_lower] at read
  have firm' : ¬EndsBlank (lower (withoutPlainScheme address)) := by
    rw [endsBlank_lower_iff]
    exact not_endsBlank_of_suffix (withoutPlainScheme_suffix address) firm
  obtain ⟨lead, core, blank, frontShape, keyShape⟩ :=
    host_of_splitPort firm' split read
  unfold key?
  rw [String.toList_ofList, frontShape, keyShape, keyOf?_lower,
    keyOf?_blanks_append blank]

end VirtualHosts.Site
