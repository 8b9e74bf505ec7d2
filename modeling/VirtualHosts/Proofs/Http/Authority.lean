import Mathlib
import VirtualHosts.Http.RequestTarget
import VirtualHosts.Proofs.Header.Visible
import VirtualHosts.Proofs.Text.Ends

/-!
The characters of an authority that can be read: they are visible, and none
of them is blank.
-/

namespace VirtualHosts

open VirtualHosts.Text

namespace Text

/-- ASCII characters that leave a mark, which a blank does not. -/
def Graphic (c : Char) : Prop :=
  32 < c.toNat ∧ c.toNat < 127

variable {c : Char}

theorem Graphic.isVisible (graphic : Graphic c) : isVisible c = true := by
  rw [Graphic] at graphic
  rw [isVisible_iff]
  omega

theorem Graphic.not_isBlank (graphic : Graphic c) : isBlank c = false := by
  rw [Graphic] at graphic
  simp only [isBlank, Bool.or_eq_false_iff, Bool.and_eq_false_iff,
    decide_eq_false_iff_not, beq_eq_false_iff_ne, ne_eq]
  omega

theorem trim_eq_self_of_graphic {s : List Char}
    (graphic : ∀ c ∈ s, Graphic c) : trim s = s := by
  apply trim_eq_self
  · rintro ⟨c, first, blank⟩
    rw [(graphic c (List.mem_of_mem_head? first)).not_isBlank] at blank
    contradiction
  · rintro ⟨c, last, blank⟩
    rw [(graphic c (List.mem_of_getLast? last)).not_isBlank] at blank
    contradiction

end Text

namespace Http

theorem graphic_of_isAuthorityChar {c : Char}
    (valid : isAuthorityChar c = true) : Graphic c := by
  have signs : ∀ sign ∈ authoritySigns, Graphic sign := by
    simp [authoritySigns, Graphic]
  have kinds : (97 ≤ c.toNat ∧ c.toNat ≤ 122) ∨
      (65 ≤ c.toNat ∧ c.toNat ≤ 90) ∨ c.isDigit = true ∨
      c ∈ authoritySigns := by
    simpa [isAuthorityChar, or_assoc] using valid
  rw [isDigit_iff] at kinds
  rcases kinds with small | large | digit | sign
  · exact ⟨by omega, by omega⟩
  · exact ⟨by omega, by omega⟩
  · exact ⟨by omega, by omega⟩
  · exact signs c sign

theorem graphic_of_step? {scan next : AuthorityScan} {c : Char}
    (taken : scan.step? c = some next) : Graphic c := by
  have marks : ∀ mark ∈ [':', '[', ']', '@', '%'], Graphic mark := by
    simp [Graphic]
  by_cases mark : c ∈ [':', '[', ']', '@', '%']
  · exact marks c mark
  · simp only [List.mem_cons, List.not_mem_nil, or_false, not_or] at mark
    obtain ⟨colon, opening, closing, user, percent⟩ := mark
    by_cases valid : isAuthorityChar c = true
    · exact graphic_of_isAuthorityChar valid
    · simp [AuthorityScan.step?, colon, opening, closing, user, percent,
        valid] at taken

theorem graphic_of_foldlM_step? {s : List Char} {scan last : AuthorityScan}
    (read : s.foldlM AuthorityScan.step? scan = some last) :
    ∀ c ∈ s, Graphic c := by
  induction s generalizing scan with
  | nil => simp
  | cons d rest ih =>
      rw [List.foldlM_cons] at read
      obtain ⟨next, taken, read⟩ := Option.bind_eq_some_iff.mp read
      intro c member
      rcases List.mem_cons.mp member with rfl | member
      · exact graphic_of_step? taken
      · exact ih read c member

theorem graphic_of_isAuthority {s : List Char}
    (valid : isAuthority s = true) : ∀ c ∈ s, Graphic c := by
  rw [isAuthority, Bool.and_eq_true] at valid
  have read := valid.2
  split at read
  · rename_i last scanned
    exact graphic_of_foldlM_step? scanned
  · contradiction

namespace RequestTarget

variable {text named : String} {target : RequestTarget}

theorem isAuthority_of_ofText? (read : ofText? text = some target)
    (has : target.authority? = some named) :
    isAuthority named.toList = true := by
  rw [ofText?] at read
  split at read
  · contradiction
  split at read
  · contradiction
  · cases read
    contradiction
  · obtain ⟨place, _, rfl⟩ := Option.map_eq_some_iff.mp read
    contradiction
  · split at read
    · rw [absolute?] at read
      split at read
      · contradiction
      · rename_i valid
        obtain ⟨place, _, rfl⟩ := Option.map_eq_some_iff.mp read
        cases has
        have both := by simpa using valid
        simpa using both.2
    · split at read
      · rename_i valid
        cases read
        cases has
        rwa [String.toList_ofList]
      · contradiction

theorem graphic_of_ofText? (read : ofText? text = some target)
    (has : target.authority? = some named) : ∀ c ∈ named.toList, Graphic c :=
  graphic_of_isAuthority (isAuthority_of_ofText? read has)

end RequestTarget

end Http

end VirtualHosts
