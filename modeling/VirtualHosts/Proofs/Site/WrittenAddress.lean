import Mathlib
import VirtualHosts.Proofs.Site.Hosts
import VirtualHosts.Proofs.Text.Digits
import VirtualHosts.Site.Printer
import VirtualHosts.Site.WellFormed

/-!
The addresses of a printed site file.  The host of a site, its list of hosts and
a backend are each read from the text that writes them.
-/

namespace VirtualHosts.Site

open VirtualHosts.Address
open VirtualHosts.Host
open VirtualHosts.Text

/-! Ports. -/

theorem portText_digits (port : UInt16) :
    (portText port).toList.all Char.isDigit = true :=
  all_isDigit_decimal port.toNat

theorem port?_portText (port : UInt16) :
    port? (portText port).toList = some port := by
  have unsigned : ∀ rest, (portText port).toList ≠ '+' :: rest := by
    intro rest shape
    have member : '+' ∈ (portText port).toList := by simp [shape]
    exact not_mem_of_all (portText_digits port) '+' rfl member
  have read : decimal? (portText port).toList = some port.toNat :=
    decimal?_decimal port.toNat
  unfold port?
  split
  · rename_i rest shape
    exact absurd shape (unsigned rest)
  · simp [read, port.toNat_lt]

theorem portAt_portText (line : Nat) {port : UInt16} (nonzero : port ≠ 0) :
    portAt line (portText port).toList = .ok port := by
  simp [portAt, port?_portText, nonzero]

theorem portAt_eighty (line : Nat) : portAt line ['8', '0'] = .ok 80 := rfl

theorem splitPort_of_portAt {line : Nat} {front after : List Char}
    {port : UInt16}
    (unbracketed : (front ++ ':' :: after).head? ≠ some '[')
    (last : ':' ∉ after) (read : portAt line after = .ok port) :
    splitPort line (front ++ ':' :: after) = .ok (front, some port) := by
  rw [splitPort_unbracketed line unbracketed, cutLast?_append front last]
  simp only [read, ok_bind]
  rfl

/-! Hosts. -/

theorem withoutPlainScheme_append (rest : List Char) :
    withoutPlainScheme (plainScheme ++ rest) = rest := by
  have lowercase : lower plainScheme = plainScheme := by decide
  rw [withoutPlainScheme]
  rw [lower_append, lowercase, dropLead?_append, Option.isSome_some,
    if_pos rfl, List.drop_left]

theorem writtenHost_bracketed (inner : List Char) :
    writtenHost ('[' :: inner) = plainScheme ++ ('[' :: inner ++ ":80".toList) := by
  simp [writtenHost]

theorem writtenHost_plain {host : List Char}
    (unbracketed : host.head? ≠ some '[') :
    writtenHost host = plainScheme ++ (host ++ ".:80".toList) := by
  unfold writtenHost
  split
  · simp at unbracketed
  · simp

theorem isHostChar_iff {c : Char} :
    isHostChar c = true ↔
      c.toLower = c ∧ c ≠ ',' ∧ c ≠ '/' ∧ c ≠ '*' := by
  simp only [isHostChar, isUpper, Bool.and_eq_true, Bool.not_eq_true',
    decide_eq_true_eq, Bool.and_eq_false_iff, decide_eq_false_iff_not,
    toLower_eq_self_iff, not_and_or, and_assoc, ne_eq]

namespace WellFormedHost

variable {host : String}

theorem char_of_mem (wellFormed : WellFormedHost host) {c : Char}
    (member : c ∈ host.toList) :
    c.toLower = c ∧ c ≠ ',' ∧ c ≠ '/' ∧ c ≠ '*' :=
  isHostChar_iff.mp (List.all_eq_true.mp wellFormed.chars c member)

theorem lower_eq (wellFormed : WellFormedHost host) :
    lower host.toList = host.toList :=
  lower_eq_self fun _ member => (wellFormed.char_of_mem member).1

theorem absent (wellFormed : WellFormedHost host) {c : Char}
    (sign : c = ',' ∨ c = '/' ∨ c = '*') : c ∉ host.toList := by
  intro member
  obtain ⟨_, noComma, noSlash, noStar⟩ := wellFormed.char_of_mem member
  rcases sign with rfl | rfl | rfl
  · exact noComma rfl
  · exact noSlash rfl
  · exact noStar rfl

theorem cases (wellFormed : WellFormedHost host) :
    (∃ inner, host.toList = '[' :: inner ++ [']'] ∧ ']' ∉ inner) ∨
      host.toList.head? ≠ some '[' := by
  have shape := wellFormed.brackets
  unfold isBracketedOrPlain at shape
  split at shape
  · rename_i inner begins
    left
    split at shape
    · rename_i address closed
      obtain ⟨rfl, open_⟩ := cutFirst?_sound closed
      exact ⟨address, begins, open_⟩
    · contradiction
  · rename_i other
    right
    intro begins
    obtain ⟨inner, shape⟩ := List.head?_eq_some_iff.mp begins
    exact other inner shape

end WellFormedHost

/-- A written address, without its scheme, is the host and what comes after,
and is split between them but for a dot. -/
theorem splitPort_written (line : Nat) {host : String}
    (wellFormed : WellFormedHost host) :
    ∃ tail front, '/' ∉ tail ∧ '*' ∉ tail ∧
      lower (withoutPlainScheme (writtenHost host.toList)) =
        host.toList ++ tail ∧
      splitPort line (host.toList ++ tail) = .ok (front, some 80) ∧
      dropFinal '.' front = host.toList := by
  rcases wellFormed.cases with ⟨inner, shape, closed⟩ | unbracketed
  · refine ⟨":80".toList, host.toList, by decide, by decide, ?_, ?_, ?_⟩
    · rw [shape, List.cons_append, writtenHost_bracketed, ← List.cons_append,
        ← shape, withoutPlainScheme_append, lower_append, wellFormed.lower_eq]
      rfl
    · have text : host.toList ++ ":80".toList =
          '[' :: (inner ++ ']' :: ":80".toList) := by simp [shape]
      rw [text, shape]
      rw [splitPort]
      simp only [cutFirst?_append closed]
      rfl
    · rw [shape, dropFinal_bracketed]
  · refine ⟨".:80".toList, host.toList ++ ['.'], by decide, by decide, ?_, ?_,
      by simp⟩
    · rw [writtenHost_plain unbracketed, withoutPlainScheme_append,
        lower_append, wellFormed.lower_eq]
      rfl
    · have text : host.toList ++ ".:80".toList =
          (host.toList ++ ['.']) ++ ':' :: ['8', '0'] := by simp
      have begins : ((host.toList ++ ['.']) ++ ':' :: ['8', '0']).head? ≠
          some '[' := by
        obtain ⟨c, rest, shape⟩ :=
          List.exists_cons_of_ne_nil wellFormed.nonempty
        rw [shape] at unbracketed ⊢
        exact unbracketed
      rw [text, splitPort_of_portAt begins (by decide) (portAt_eighty line)]

theorem siteHost_writtenHost (line : Nat) {host : String}
    (wellFormed : WellFormedHost host) :
    siteHost line (writtenHost host.toList) = .ok host := by
  obtain ⟨tail, front, noSlash, noStar, rest, split, core⟩ :=
    splitPort_written line wellFormed
  rw [siteHost_eq_ok_iff, rest]
  refine ⟨?_, ?_, front, some 80, split, ?_, ?_⟩
  · rw [List.mem_append, not_or]
    exact ⟨wellFormed.absent (by simp), noSlash⟩
  · rw [List.mem_append, not_or]
    exact ⟨wellFormed.absent (by simp), noStar⟩
  · rw [core]
    exact wellFormed.nonempty
  · rw [core, String.ofList_toList]

/-! The list of hosts. -/

theorem exists_tail_of_writtenHost (host : List Char) :
    ∃ tail, ',' ∉ tail ∧
      writtenHost host = plainScheme ++ (host ++ (tail ++ ['0'])) := by
  by_cases bracketed : host.head? = some '['
  · obtain ⟨inner, rfl⟩ := List.head?_eq_some_iff.mp bracketed
    exact ⟨[':', '8'], by decide, writtenHost_bracketed inner⟩
  · exact ⟨['.', ':', '8'], by decide, writtenHost_plain bracketed⟩

theorem comma_not_mem_writtenHost {host : List Char} (noComma : ',' ∉ host) :
    ',' ∉ writtenHost host := by
  obtain ⟨tail, absent, shape⟩ := exists_tail_of_writtenHost host
  have scheme : ',' ∉ plainScheme := by decide
  simp [shape, noComma, absent, scheme]

theorem trim_writtenHost (host : List Char) :
    trim (writtenHost host) = writtenHost host := by
  obtain ⟨tail, _, shape⟩ := exists_tail_of_writtenHost host
  apply trim_eq_self
  · intro holds
    obtain ⟨c, first, blank⟩ := holds
    rw [shape] at first
    cases first
    exact absurd blank (by decide)
  · intro holds
    obtain ⟨c, last, blank⟩ := holds
    rw [shape, ← List.append_assoc, ← List.append_assoc,
      List.getLast?_concat] at last
    cases last
    exact absurd blank (by decide)

theorem writtenHost_ne_nil (host : List Char) : writtenHost host ≠ [] := by
  obtain ⟨tail, _, shape⟩ := exists_tail_of_writtenHost host
  simp [shape]

theorem pieces_writtenHosts {hosts : List String} (nonempty : hosts ≠ [])
    (noComma : ∀ host ∈ hosts, ',' ∉ host.toList) :
    pieces ',' (writtenHosts hosts) =
      hosts.map fun host => writtenHost host.toList := by
  induction hosts with
  | nil => exact absurd rfl nonempty
  | cons host rest ih =>
      have first := comma_not_mem_writtenHost (noComma host List.mem_cons_self)
      cases rest with
      | nil => exact pieces_eq_singleton first
      | cons other more =>
          rw [writtenHosts, pieces_append first,
            ih (by simp) fun host member =>
              noComma host (List.mem_cons_of_mem _ member)]
          · rfl
          · simp

theorem names_writtenHosts (line : Nat) {hosts : List String}
    (nonempty : hosts ≠ [])
    (wellFormed : ∀ host ∈ hosts, WellFormedHost host) {token : Token}
    (text : token.text.toList = writtenHosts hosts) :
    Names ((addressPieces token).map fun address => (line, address))
      hosts := by
  have kept : addressPieces token =
      hosts.map fun host => writtenHost host.toList := by
    rw [addressPieces]
    rw [text, pieces_writtenHosts nonempty fun host member =>
      (wellFormed host member).absent (by simp), List.map_map,
      List.filter_eq_self.mpr]
    · exact List.map_congr_left fun host _ => trim_writtenHost host.toList
    · intro address member
      obtain ⟨host, _, rfl⟩ := List.mem_map.mp member
      simp [trim_writtenHost, writtenHost_ne_nil]
  rw [Names]
  rw [kept, List.map_map, List.forall₂_map_left_iff, List.forall₂_same]
  intro host member
  exact siteHost_writtenHost line (wellFormed host member)

/-! Backends. -/

theorem backendOf_eq_ok_iff {line : Nat} {raw : String}
    {backend : Backend} :
    backendOf line raw = .ok backend ↔
      containsText schemeMark
        ((dropLead? plainScheme raw.toList).getD raw.toList) = false ∧
      '/' ∉ dropFinal '/'
        ((dropLead? plainScheme raw.toList).getD raw.toList) ∧
      ∃ host port,
        splitPort line
          (dropFinal '/'
            ((dropLead? plainScheme raw.toList).getD raw.toList)) =
          .ok (host, some port) ∧
        backend = ⟨String.ofList (bareHost host), port⟩ := by
  rw [backendOf]
  simp only
  constructor
  · intro read
    split at read
    · contradiction
    rename_i noMark
    split at read
    · contradiction
    rename_i noSlash
    obtain ⟨⟨host, port?⟩, split, read⟩ := bind_eq_ok_iff.mp read
    cases port? with
    | none => contradiction
    | some port =>
        cases read
        exact ⟨by simpa using noMark, by simpa using noSlash, host, port, split,
          rfl⟩
  · intro holds
    obtain ⟨noMark, noSlash, host, port, split, rfl⟩ := holds
    rw [if_neg (by simp [noMark]), if_neg (by simpa using noSlash), split]
    rfl

theorem bareHost_eq_self {host : List Char} (nonempty : host ≠ [])
    (opening : host.head? ≠ some '[') (closing : host.getLast? ≠ some ']') :
    bareHost host = host := by
  have noneOpen : host.dropWhile (· = '[') = host := by
    obtain ⟨c, rest, rfl⟩ := List.exists_cons_of_ne_nil nonempty
    exact List.dropWhile_cons_of_neg (by simpa using opening)
  have noneClose : host.reverse.dropWhile (· = ']') = host.reverse := by
    rw [← List.head?_reverse] at closing
    obtain ⟨c, rest, shape⟩ :=
      List.exists_cons_of_ne_nil (List.reverse_ne_nil_iff.mpr nonempty)
    rw [shape] at closing ⊢
    exact List.dropWhile_cons_of_neg (by simpa using closing)
  rw [bareHost]
  simp [noneOpen, noneClose, nonempty]

theorem backendOf_writtenBackend (line : Nat) {backend : Backend}
    (wellFormed : WellFormedBackend backend) :
    backendOf line (String.ofList (writtenBackend backend)) =
      .ok backend := by
  have digital := portText_digits backend.port
  have noSlash :
      '/' ∉ backend.host.toList ++ ':' :: (portText backend.port).toList := by
    simp [wellFormed.noSlash, not_mem_of_all digital '/' rfl]
  have schemeless :
      dropLead? plainScheme (writtenBackend backend) =
        some (backend.host.toList ++ ':' :: (portText backend.port).toList) := by
    rw [writtenBackend, List.append_assoc]
    exact dropLead?_append plainScheme _
  have noFinalSlash :
      dropFinal '/'
        (backend.host.toList ++ ':' :: (portText backend.port).toList) =
      backend.host.toList ++ ':' :: (portText backend.port).toList :=
    dropFinal_eq_self fun last => noSlash (List.mem_of_getLast? last)
  have begins :
      (backend.host.toList ++ ':' :: (portText backend.port).toList).head? ≠
        some '[' := by
    obtain ⟨c, rest, shape⟩ := List.exists_cons_of_ne_nil wellFormed.nonempty
    have opening := wellFormed.opening
    rw [shape] at opening ⊢
    exact opening
  have slashMark : '/' ∈ schemeMark := by decide
  have noMark := containsText_eq_false slashMark noSlash
  rw [backendOf_eq_ok_iff, String.toList_ofList, schemeless,
    Option.getD_some, noFinalSlash]
  refine ⟨noMark, noSlash, backend.host.toList, backend.port, ?_, ?_⟩
  · exact splitPort_of_portAt begins (not_mem_of_all digital ':' rfl)
      (portAt_portText line wellFormed.port)
  · rw [bareHost_eq_self wellFormed.nonempty wellFormed.opening
      wellFormed.closing, String.ofList_toList]

end VirtualHosts.Site
