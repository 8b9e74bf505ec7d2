import Mathlib
import VirtualHosts.Proofs.Http.Authority
import VirtualHosts.Proofs.Proxy.Forwarding
import VirtualHosts.Proofs.Site.Image

/-!
Reading the text of a backend.  The brackets that its text puts around a host
with a colon are the ones that reading takes off again, unless the host closes
them itself.  A text that is not read back cannot stand in a request either.
-/

namespace VirtualHosts

open VirtualHosts.Address
open VirtualHosts.Text

/-! Authorities. -/

namespace Http

theorem closed_step? {scan next : AuthorityScan} {c : Char}
    (taken : scan.step? c = some next) :
    (c = ']' ∧ scan.closed = false ∧ next.closed = true) ∨
      (c ≠ ']' ∧ next.closed = scan.closed) := by
  unfold AuthorityScan.step? at taken
  grind

theorem count_close_of_foldlM_step? {s : List Char}
    {scan last : AuthorityScan}
    (read : s.foldlM AuthorityScan.step? scan = some last) :
    s.count ']' + scan.closed.toNat ≤ 1 := by
  induction s generalizing scan with
  | nil => simpa using scan.closed.toNat_le
  | cons c rest ih =>
      rw [List.foldlM_cons] at read
      obtain ⟨next, taken, read⟩ := Option.bind_eq_some_iff.mp read
      have later := ih read
      rcases closed_step? taken with ⟨rfl, before, after⟩ | ⟨other, same⟩
      · rw [after] at later
        rw [before, List.count_cons_self]
        simpa using later
      · rw [same] at later
        rwa [List.count_cons_of_ne other]

theorem count_close_of_isAuthority {s : List Char}
    (valid : isAuthority s = true) : s.count ']' ≤ 1 := by
  rw [isAuthority] at valid
  split at valid
  · rename_i last read
    exact count_close_of_foldlM_step? read
  · simp at valid

end Http

namespace Site

/-! The text of a backend. -/

/-- Whether the brackets that a colon puts around a host end inside of it. -/
def Backend.ClosesEarly (backend : Backend) : Prop :=
  ':' ∈ backend.host.toList ∧ ']' ∈ backend.host.toList

theorem toList_text_plain {backend : Backend}
    (noColon : ':' ∉ backend.host.toList) :
    backend.text.toList =
      backend.host.toList ++ ':' :: (portText backend.port).toList := by
  simp [Backend.text, noColon]

theorem toList_text_colon {backend : Backend}
    (colon : ':' ∈ backend.host.toList)
    (opening : backend.host.toList.head? ≠ some '[') :
    backend.text.toList = '[' :: backend.host.toList ++
      ']' :: ':' :: (portText backend.port).toList := by
  simp [Backend.text, colon, opening]

theorem portWrittenAs_portText {port : UInt16} (nonzero : port ≠ 0) :
    PortWrittenAs port (portText port).toList :=
  ⟨nonzero, port?_eq_some_iff.mp (port?_portText port)⟩

theorem bareHost_bracketed {host : List Char} (nonempty : host ≠ [])
    (opening : host.head? ≠ some '[') (closing : host.getLast? ≠ some ']') :
    bareHost ('[' :: host ++ [']']) = host := by
  have noneOpen : (host ++ [']']).dropWhile (· = '[') = host ++ [']'] := by
    obtain ⟨c, rest, rfl⟩ := List.exists_cons_of_ne_nil nonempty
    exact List.dropWhile_cons_of_neg (by simpa using opening)
  have noneClose : host.reverse.dropWhile (· = ']') = host.reverse := by
    rw [← List.head?_reverse] at closing
    obtain ⟨c, rest, shape⟩ :=
      List.exists_cons_of_ne_nil (List.reverse_ne_nil_iff.mpr nonempty)
    rw [shape] at closing ⊢
    exact List.dropWhile_cons_of_neg (by simpa using closing)
  rw [bareHost]
  simp [noneOpen, noneClose, nonempty]

/-! Addresses without a slash.  There is no scheme and no final slash on them,
so all of the address is split. -/

theorem backendOf_eq_ok_iff_of_not_mem {line : Nat} {raw : String}
    (noSlash : '/' ∉ raw.toList) {backend : Backend} :
    backendOf line raw = .ok backend ↔
      ∃ host port, HostPort raw.toList host (some port) ∧
        backend = ⟨String.ofList (bareHost host), port⟩ := by
  rw [backendOf_eq_ok_iff_backendAddress]
  constructor
  · rintro ⟨plain, slash, text, _, split, bare⟩
    rw [text] at noSlash ⊢
    rcases plain with rfl | rfl
    · rcases slash with rfl | rfl
      · rw [List.nil_append, List.append_nil]
        exact ⟨_, _, split, bare⟩
      · simp at noSlash
    · simp [plainScheme] at noSlash
  · rintro ⟨host, port, split, bare⟩
    have whole : raw.toList = [] ++ (raw.toList ++ []) := by simp
    exact .written (Or.inl rfl) (Or.inl rfl) whole noSlash split bare

theorem slash_not_mem_text {backend : Backend}
    (wellFormed : WellFormedBackend backend) : '/' ∉ backend.text.toList := by
  have digital := portText_digits backend.port
  have noSlash := not_mem_of_all digital '/' rfl
  by_cases colon : ':' ∈ backend.host.toList
  · rw [toList_text_colon colon wellFormed.opening]
    simp [wellFormed.noSlash, noSlash]
  · rw [toList_text_plain colon]
    simp [wellFormed.noSlash, noSlash]

theorem backendOf_text {backend : Backend}
    (wellFormed : WellFormedBackend backend)
    (apart : ¬backend.ClosesEarly) (line : Nat) :
    backendOf line backend.text = .ok backend := by
  rw [backendOf_eq_ok_iff_of_not_mem (slash_not_mem_text wellFormed)]
  have port := portWrittenAs_portText wellFormed.port
  by_cases colon : ':' ∈ backend.host.toList
  · have closed : ']' ∉ backend.host.toList := fun early => apart ⟨colon, early⟩
    rw [toList_text_colon colon wellFormed.opening]
    refine ⟨_, _, .bracketedPort closed port, ?_⟩
    rw [bareHost_bracketed wellFormed.nonempty wellFormed.opening
      wellFormed.closing, String.ofList_toList]
  · rw [toList_text_plain colon]
    have begins : (backend.host.toList ++
        ':' :: (portText backend.port).toList).head? ≠ some '[' := by
      obtain ⟨c, rest, shape⟩ := List.exists_cons_of_ne_nil wellFormed.nonempty
      have opening := wellFormed.opening
      rw [shape] at opening ⊢
      exact opening
    refine ⟨_, _, .ported begins port, ?_⟩
    rw [bareHost_eq_self wellFormed.nonempty wellFormed.opening
      wellFormed.closing, String.ofList_toList]

/-! Brackets that end early. -/

theorem HostPort.count_close {s host : List Char} {port? : Option UInt16}
    (split : HostPort s host port?) (opened : s.head? = some '[') :
    s.count ']' = 1 := by
  cases split with
  | plain unbracketed _ => exact absurd opened unbracketed
  | ported unbracketed _ => exact absurd opened unbracketed
  | bracketed closed => simp [List.count_eq_zero_of_not_mem closed]
  | bracketedPort closed written =>
      have after := written.not_mem (c := ']') rfl (by decide)
      simp [List.count_eq_zero_of_not_mem closed,
        List.count_eq_zero_of_not_mem after]

theorem one_lt_count_close {backend : Backend} (early : backend.ClosesEarly)
    (opening : backend.host.toList.head? ≠ some '[') :
    1 < backend.text.toList.count ']' := by
  have inside : 0 < backend.host.toList.count ']' :=
    List.count_pos_iff.mpr early.2
  rw [toList_text_colon early.1 opening, List.count_append, List.count_cons,
    List.count_cons_self]
  omega

theorem backendOf_text_ne_ok {backend : Backend}
    (wellFormed : WellFormedBackend backend) (early : backend.ClosesEarly)
    (line : Nat) (again : Backend) :
    backendOf line backend.text ≠ .ok again := by
  intro read
  obtain ⟨host, port, split, _⟩ :=
    (backendOf_eq_ok_iff_of_not_mem (slash_not_mem_text wellFormed)).mp read
  have opened : backend.text.toList.head? = some '[' := by
    rw [toList_text_colon early.1 wellFormed.opening]
    rfl
  have one := split.count_close opened
  have many := one_lt_count_close early wellFormed.opening
  omega

/-- The text of a backend that was read is read as the same backend, whatever
its line, exactly if the host does not hold both a colon and a closing bracket.
It is read as no other backend, and if it is not read at all then no request can
be sent to the backend. -/
theorem backendOf_text_iff {line : Nat} {raw : String} {backend : Backend}
    (read : backendOf line raw = .ok backend) (other : Nat) :
    (backendOf other backend.text = .ok backend ↔ ¬backend.ClosesEarly) ∧
    (∀ again, backendOf other backend.text = .ok again → again = backend) ∧
    (backend.ClosesEarly →
      ∀ request, Proxy.outbound? backend request = none) := by
  have wellFormed := (backendOf_eq_ok_iff_backendAddress.mp read).wellFormed
  refine ⟨⟨?_, fun apart => backendOf_text wellFormed apart other⟩, ?_, ?_⟩
  · intro same early
    exact backendOf_text_ne_ok wellFormed early other backend same
  · intro again reread
    by_cases early : backend.ClosesEarly
    · exact absurd reread (backendOf_text_ne_ok wellFormed early other again)
    · rw [backendOf_text wellFormed early other] at reread
      exact (Except.ok.inj reread).symm
  · intro early request
    rw [Option.eq_none_iff_forall_ne_some]
    intro out sent
    have valid := (Proxy.outbound?_eq_some_iff.mp sent).1
    have few := Http.count_close_of_isAuthority valid
    have many := one_lt_count_close early wellFormed.opening
    omega

/-- Without brackets around it, a host may hold a closing one anywhere. -/
theorem backendOf_text_iff_strayBracket :
    backendOf 1 "a]b:c:80" = .ok ⟨"a]b:c", 80⟩ ∧
    (backendOf 2 (Backend.text ⟨"a]b:c", 80⟩) = .ok ⟨"a]b:c", 80⟩ ↔
      ¬Backend.ClosesEarly ⟨"a]b:c", 80⟩) ∧
    (∀ again, backendOf 2 (Backend.text ⟨"a]b:c", 80⟩) = .ok again →
      again = ⟨"a]b:c", 80⟩) ∧
    (Backend.ClosesEarly ⟨"a]b:c", 80⟩ →
      ∀ request, Proxy.outbound? ⟨"a]b:c", 80⟩ request = none) := by
  have read : backendOf 1 "a]b:c:80" = .ok ⟨"a]b:c", 80⟩ := by decide
  exact ⟨read, backendOf_text_iff read 2⟩

theorem backendOf_text_refused :
    ∃ raw backend, backendOf 1 raw = .ok backend ∧
      backendOf 1 backend.text =
        .error (.syntaxAt 1 (.textAfterBracket "[a]b:c]:80")) :=
  ⟨"a]b:c:80", ⟨"a]b:c", 80⟩, by decide, by decide⟩

end Site

end VirtualHosts
