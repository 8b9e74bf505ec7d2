import Mathlib
import VirtualHosts.Proofs.Site.WrittenAddress

/-!
Hosts and ports in one text.  A text is split exactly where its form says: at
the end of its brackets if it opens with one, and else at its last colon.
-/

namespace VirtualHosts.Site

open VirtualHosts.Address
open VirtualHosts.Text

/-- A port as it is written: the digits of a number that is not zero, perhaps
after a plus sign. -/
structure PortWrittenAs (port : UInt16) (s : List Char) : Prop where
  nonzero : port ≠ 0
  digits : ∃ digits, (s = digits ∨ s = '+' :: digits) ∧ digits ≠ [] ∧
    digits.all Char.isDigit = true ∧
    Nat.ofDigitChars 10 digits 0 = port.toNat

/-- A text, the host in it and the port, if it has one. -/
inductive HostPort : List Char → List Char → Option UInt16 → Prop
  | plain {host : List Char} (unbracketed : host.head? ≠ some '[')
      (noColon : ':' ∉ host) : HostPort host host none
  | ported {host after : List Char} {port : UInt16}
      (unbracketed : (host ++ ':' :: after).head? ≠ some '[')
      (written : PortWrittenAs port after) :
      HostPort (host ++ ':' :: after) host (some port)
  | bracketed {inner : List Char} (closed : ']' ∉ inner) :
      HostPort ('[' :: inner ++ [']']) ('[' :: inner ++ [']']) none
  | bracketedPort {inner after : List Char} {port : UInt16}
      (closed : ']' ∉ inner) (written : PortWrittenAs port after) :
      HostPort ('[' :: inner ++ ']' :: ':' :: after) ('[' :: inner ++ [']'])
        (some port)

/-! Ports. -/

theorem decimal?_eq_some_iff {s : List Char} {value : Nat} :
    decimal? s = some value ↔
      s ≠ [] ∧ s.all Char.isDigit = true ∧ Nat.ofDigitChars 10 s 0 = value := by
  rw [decimal?]
  split
  · rename_i empty
    simp_all
  · rename_i nonempty
    split
    · rename_i digital
      simp_all
    · rename_i other
      simp_all

theorem portOf_eq_some_iff {digits : List Char} {port : UInt16} :
    ((decimal? digits).bind fun value =>
      if value < 65536 then some (UInt16.ofNat value) else none) = some port ↔
      digits ≠ [] ∧ digits.all Char.isDigit = true ∧
        Nat.ofDigitChars 10 digits 0 = port.toNat := by
  have bound := port.toNat_lt
  rw [← decimal?_eq_some_iff, Option.bind_eq_some_iff]
  simp only [Option.ite_none_right_eq_some, Option.some.injEq,
    ← UInt16.toNat_inj, UInt16.toNat_ofNat']
  constructor
  · rintro ⟨value, read, small, same⟩
    rw [read]
    congr
    omega
  · intro read
    exact ⟨_, read, bound, by omega⟩

theorem port?_eq_some_iff {s : List Char} {port : UInt16} :
    port? s = some port ↔
      ∃ digits, (s = digits ∨ s = '+' :: digits) ∧ digits ≠ [] ∧
        digits.all Char.isDigit = true ∧
        Nat.ofDigitChars 10 digits 0 = port.toNat := by
  have noSign {digits rest : List Char}
      (digital : digits.all Char.isDigit = true) : digits ≠ '+' :: rest := by
    rintro rfl
    exact absurd digital (by simp)
  have signed (rest : List Char) :
      port? ('+' :: rest) = (decimal? rest).bind fun value =>
        if value < 65536 then some (UInt16.ofNat value) else none := by
    rw [port?]
    cases decimal? rest <;> rfl
  have unsigned (plain : s.head? ≠ some '+') :
      port? s = (decimal? s).bind fun value =>
        if value < 65536 then some (UInt16.ofNat value) else none := by
    rw [port?]
    · cases decimal? s <;> rfl
    · rintro rest rfl
      exact plain rfl
  by_cases plus : s.head? = some '+'
  · obtain ⟨rest, rfl⟩ := List.head?_eq_some_iff.mp plus
    rw [signed, portOf_eq_some_iff]
    constructor
    · intro found
      exact ⟨rest, Or.inr rfl, found⟩
    · rintro ⟨digits, same | same, nonempty, digital, value⟩
      · exact absurd same.symm (noSign digital)
      · cases same
        exact ⟨nonempty, digital, value⟩
  · rw [unsigned plus, portOf_eq_some_iff]
    constructor
    · intro found
      exact ⟨s, Or.inl rfl, found⟩
    · rintro ⟨digits, rfl | rfl, found⟩
      · exact found
      · exact absurd rfl plus

theorem portAt_eq_ok_iff {line : Nat} {s : List Char} {port : UInt16} :
    portAt line s = .ok port ↔ PortWrittenAs port s := by
  constructor
  · intro read
    obtain ⟨found, nonzero⟩ := portAt_eq_ok read
    exact ⟨nonzero, port?_eq_some_iff.mp found⟩
  · intro written
    rw [portAt, port?_eq_some_iff.mpr written.digits]
    exact if_neg written.nonzero

theorem PortWrittenAs.not_mem {port : UInt16} {s : List Char}
    (written : PortWrittenAs port s) {c : Char} (noDigit : c.isDigit = false)
    (noPlus : c ≠ '+') : c ∉ s := by
  obtain ⟨digits, shape, _, digital, _⟩ := written.digits
  have absent := not_mem_of_all digital c noDigit
  rcases shape with rfl | rfl
  · exact absent
  · simp [noPlus, absent]

/-! Splitting. -/

theorem hostPort_of_splitPort {line : Nat} {s host : List Char}
    {port? : Option UInt16} (split : splitPort line s = .ok (host, port?)) :
    HostPort s host port? := by
  by_cases bracket : s.head? = some '['
  · obtain ⟨inner, rfl⟩ := List.head?_eq_some_iff.mp bracket
    rw [splitPort] at split
    cases cut : cutFirst? ']' inner with
    | none => simp [cut] at split
    | some parts =>
        obtain ⟨address, rest⟩ := parts
        obtain ⟨rfl, closed⟩ := cutFirst?_sound cut
        simp only [cut] at split
        split at split
        · cases split
          exact .bracketed closed
        · rename_i after
          obtain ⟨port, read, same⟩ := bind_eq_ok_iff.mp split
          cases same
          exact .bracketedPort closed (portAt_eq_ok_iff.mp read)
        · contradiction
  · rw [splitPort_unbracketed line bracket] at split
    cases cut : cutLast? ':' s with
    | none =>
        rw [cut] at split
        cases split
        exact .plain bracket (not_mem_of_cutLast?_eq_none cut)
    | some parts =>
        obtain ⟨front, after⟩ := parts
        rw [cut] at split
        obtain ⟨port, read, same⟩ := bind_eq_ok_iff.mp split
        cases same
        obtain rfl := cutLast?_sound cut
        exact .ported bracket (portAt_eq_ok_iff.mp read)

theorem splitPort_of_hostPort {s host : List Char} {port? : Option UInt16}
    (split : HostPort s host port?) (line : Nat) :
    splitPort line s = .ok (host, port?) := by
  cases split with
  | plain unbracketed noColon =>
      rw [splitPort_unbracketed line unbracketed, cutLast?_eq_none noColon]
  | ported unbracketed written =>
      exact splitPort_of_portAt unbracketed (written.not_mem rfl (by decide))
        (portAt_eq_ok_iff.mpr written)
  | bracketed closed =>
      rw [List.cons_append, splitPort]
      simp only [cutFirst?_append closed]
      rfl
  | bracketedPort closed written =>
      rw [List.cons_append, splitPort]
      simp only [cutFirst?_append closed, portAt_eq_ok_iff.mpr written, ok_bind]
      rfl

theorem splitPort_eq_ok_iff {line : Nat} {s host : List Char}
    {port? : Option UInt16} :
    splitPort line s = .ok (host, port?) ↔ HostPort s host port? :=
  ⟨hostPort_of_splitPort, fun split => splitPort_of_hostPort split line⟩

end VirtualHosts.Site
