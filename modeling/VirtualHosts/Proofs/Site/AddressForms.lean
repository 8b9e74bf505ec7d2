import Mathlib
import VirtualHosts.Proofs.Site.HostPort

/-!
The forms of addresses.  Those of sites and those of backends are accepted
exactly in the forms that are given here, on every line alike.
-/

namespace VirtualHosts.Site

open VirtualHosts.Text

/-- An address of a site as it is written and the host that it names.  The
plain scheme may come before the host, a dot and a port after it. -/
inductive HostAddress (address : List Char) (host : String) : Prop
  | written {scheme rest front : List Char} {port? : Option UInt16}
      (plain : scheme = [] ∨ scheme = plainScheme)
      (caseless : lower address = scheme ++ rest)
      (noPath : '/' ∉ rest) (noWildcard : '*' ∉ rest)
      (split : HostPort rest front port?)
      (dot : front = host.toList ++ ['.'] ∨
        (front = host.toList ∧ host.toList.getLast? ≠ some '.'))
      (nonempty : host.toList ≠ []) : HostAddress address host

/-- The address of a backend as it is written.  It has a port, and the plain
scheme may come before it and a slash after it. -/
inductive BackendAddress (raw : List Char) (backend : Backend) : Prop
  | written {scheme body final host : List Char} {port : UInt16}
      (plain : scheme = [] ∨ scheme = plainScheme)
      (slash : final = [] ∨ final = ['/'])
      (text : raw = scheme ++ (body ++ final)) (noPath : '/' ∉ body)
      (split : HostPort body host (some port))
      (bare : backend = ⟨String.ofList (bareHost host), port⟩) :
      BackendAddress raw backend

/-- The plain scheme has two slashes, so it is not taken for a part of what
follows it. -/
theorem getD_dropLead?_eq_iff {s rest : List Char} (few : rest.count '/' ≤ 1) :
    (dropLead? plainScheme s).getD s = rest ↔
      ∃ scheme, (scheme = [] ∨ scheme = plainScheme) ∧ s = scheme ++ rest := by
  constructor
  · rintro rfl
    cases schemed : dropLead? plainScheme s with
    | none => exact ⟨[], Or.inl rfl, rfl⟩
    | some after =>
        exact ⟨plainScheme, Or.inr rfl, dropLead?_eq_some_iff.mp schemed⟩
  · rintro ⟨_, rfl | rfl, shape⟩
    · rw [List.nil_append] at shape
      subst shape
      cases schemed : dropLead? plainScheme s with
      | none => rfl
      | some after =>
          have slashes : plainScheme.count '/' = 2 := by decide
          rw [dropLead?_eq_some_iff.mp schemed, List.count_append] at few
          omega
    · rw [shape, dropLead?_append, Option.getD_some]

theorem lower_withoutPlainScheme (address : List Char) :
    lower (withoutPlainScheme address) =
      (dropLead? plainScheme (lower address)).getD (lower address) := by
  rw [withoutPlainScheme]
  cases schemed : dropLead? plainScheme (lower address) with
  | none => rfl
  | some after =>
      have shape := dropLead?_eq_some_iff.mp schemed
      unfold lower at shape ⊢
      rw [Option.isSome_some, if_pos rfl, List.map_drop, shape, List.drop_left,
        Option.getD_some]

theorem siteHost_eq_ok_iff_hostAddress {line : Nat} {address : List Char}
    {host : String} :
    siteHost line address = .ok host ↔ HostAddress address host := by
  have few {rest : List Char} (noPath : '/' ∉ rest) : rest.count '/' ≤ 1 := by
    rw [List.count_eq_zero_of_not_mem noPath]
    omega
  rw [siteHost_eq_ok_iff, lower_withoutPlainScheme]
  simp only [splitPort_eq_ok_iff]
  constructor
  · rintro ⟨noPath, noWildcard, front, port?, split, nonempty, rfl⟩
    obtain ⟨scheme, plain, caseless⟩ :=
      (getD_dropLead?_eq_iff (few noPath)).mp rfl
    refine .written plain caseless noPath noWildcard split ?_ ?_
    · rw [String.toList_ofList]
      exact dropFinal_eq_iff.mp rfl
    · rwa [String.toList_ofList]
  · rintro ⟨plain, caseless, noPath, noWildcard, split, dot, nonempty⟩
    rw [(getD_dropLead?_eq_iff (few noPath)).mpr ⟨_, plain, caseless⟩]
    refine ⟨noPath, noWildcard, _, _, split, ?_⟩
    rw [dropFinal_eq_iff.mpr dot, String.ofList_toList]
    exact ⟨nonempty, rfl⟩

theorem dropFinal_slash_eq_iff {s body : List Char} (noPath : '/' ∉ body) :
    dropFinal '/' s = body ↔
      ∃ final, (final = [] ∨ final = ['/']) ∧ s = body ++ final := by
  rw [dropFinal_eq_iff]
  constructor
  · rintro (shape | ⟨shape, _⟩)
    · exact ⟨['/'], Or.inr rfl, shape⟩
    · exact ⟨[], Or.inl rfl, by rwa [List.append_nil]⟩
  · rintro ⟨_, rfl | rfl, shape⟩
    · rw [List.append_nil] at shape
      exact Or.inr ⟨shape, fun last => noPath (List.mem_of_getLast? last)⟩
    · exact Or.inl shape

theorem backendOf_eq_ok_iff_backendAddress {line : Nat} {raw : String}
    {backend : Backend} :
    backendOf line raw = .ok backend ↔
      BackendAddress raw.toList backend := by
  have few {body final : List Char} (noPath : '/' ∉ body)
      (slash : final = [] ∨ final = ['/']) :
      (body ++ final).count '/' ≤ 1 := by
    rw [List.count_append, List.count_eq_zero_of_not_mem noPath]
    rcases slash with rfl | rfl <;> decide
  rw [backendOf_eq_ok_iff]
  simp only [splitPort_eq_ok_iff]
  constructor
  · rintro ⟨_, noPath, host, port, split, bare⟩
    obtain ⟨final, slash, shape⟩ := (dropFinal_slash_eq_iff noPath).mp rfl
    obtain ⟨scheme, plain, text⟩ :=
      (getD_dropLead?_eq_iff (few noPath slash)).mp shape
    exact .written plain slash text noPath split bare
  · rintro ⟨plain, slash, text, noPath, split, bare⟩
    have once := few noPath slash
    rw [(getD_dropLead?_eq_iff once).mpr ⟨_, plain, text⟩,
      (dropFinal_slash_eq_iff noPath).mpr ⟨_, slash, rfl⟩]
    refine ⟨?_, noPath, _, _, split, bare⟩
    -- A mark of a scheme would have two slashes.
    rw [Bool.eq_false_iff]
    intro found
    have marks := count_le_of_containsText found '/'
    have slashes : schemeMark.count '/' = 2 := by decide
    omega

end VirtualHosts.Site
