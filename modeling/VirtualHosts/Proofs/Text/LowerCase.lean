import Mathlib
import VirtualHosts.Proofs.Text.Ends

/-!
Lower case.  Only letters change, so every cut, every trim and every test for
a sign gives the same in lower case.
-/

namespace VirtualHosts.Text

theorem toNat_ofNat_of_small {n : Nat} (small : n < 256) :
    (Char.ofNat n).toNat = n := by
  have valid : n.isValidChar := by
    rw [Nat.isValidChar]
    omega
  rw [Char.toNat_ofNat, if_pos valid]

theorem toNat_toLower (c : Char) :
    c.toLower.toNat =
      if 65 ≤ c.toNat ∧ c.toNat ≤ 90 then c.toNat + 32 else c.toNat := by
  have upper_iff : c.isUpper = true ↔ 65 ≤ c.toNat ∧ c.toNat ≤ 90 := by
    simp [Char.isUpper, UInt32.le_iff_toNat_le]
  split
  · rename_i bounds
    rw [Char.toLower_eq_of_isUpper (upper_iff.mpr bounds),
      toNat_ofNat_of_small (by omega)]
  · rename_i bounds
    rw [Char.toLower_eq_of_not_isUpper fun upper =>
      bounds (upper_iff.mp upper)]

theorem toLower_eq_self_iff {c : Char} :
    c.toLower = c ↔ ¬(65 ≤ c.toNat ∧ c.toNat ≤ 90) := by
  rw [← Char.toNat_inj, toNat_toLower]
  split <;> omega

/-- A sign is no letter in either case. -/
def IsSign (c : Char) : Prop :=
  c.toNat < 65 ∨ (90 < c.toNat ∧ c.toNat < 97) ∨ 122 < c.toNat

instance : DecidablePred IsSign := fun _ =>
  inferInstanceAs (Decidable (_ ∨ _ ∨ _))

theorem toLower_eq_sign_iff {c sign : Char} (isSign : IsSign sign) :
    c.toLower = sign ↔ c = sign := by
  rw [← Char.toNat_inj, ← Char.toNat_inj, toNat_toLower]
  rw [IsSign] at isSign
  split <;> omega

theorem isBlank_toLower (c : Char) : isBlank c.toLower = isBlank c := by
  unfold isBlank
  rw [toNat_toLower]
  split
  · rename_i bounds
    rw [Bool.eq_iff_iff]
    simp only [Bool.or_eq_true, Bool.and_eq_true, decide_eq_true_eq,
      beq_iff_eq]
    omega
  · rfl

theorem isDigit_iff {c : Char} :
    c.isDigit = true ↔ 48 ≤ c.toNat ∧ c.toNat ≤ 57 := by
  simp [Char.isDigit, UInt32.le_iff_toNat_le]

theorem isDigit_toLower (c : Char) : c.toLower.isDigit = c.isDigit := by
  rw [Bool.eq_iff_iff, isDigit_iff, isDigit_iff, toNat_toLower]
  split <;> omega

@[simp] theorem lower_nil : lower [] = [] := rfl

@[simp] theorem lower_cons (c : Char) (s : List Char) :
    lower (c :: s) = c.toLower :: lower s := rfl

@[simp] theorem lower_append (s t : List Char) :
    lower (s ++ t) = lower s ++ lower t :=
  List.map_append

theorem lower_eq_self {s : List Char} (lowercase : ∀ c ∈ s, c.toLower = c) :
    lower s = s := by
  rw [lower]
  rw [List.map_congr_left lowercase, List.map_id']

@[simp] theorem lower_lower (s : List Char) : lower (lower s) = lower s := by
  simp [lower]

@[simp] theorem length_lower (s : List Char) :
    (lower s).length = s.length :=
  List.length_map Char.toLower

@[simp] theorem lower_eq_nil_iff {s : List Char} : lower s = [] ↔ s = [] :=
  List.map_eq_nil_iff

theorem sign_mem_lower_iff {sign : Char} (isSign : IsSign sign)
    {s : List Char} : sign ∈ lower s ↔ sign ∈ s := by
  rw [lower]
  rw [List.mem_map]
  constructor
  · intro holds
    obtain ⟨c, member, same⟩ := holds
    rwa [← (toLower_eq_sign_iff isSign).mp same]
  · intro member
    exact ⟨sign, member, (toLower_eq_sign_iff isSign).mpr rfl⟩

theorem contains_lower {sign : Char} (isSign : IsSign sign)
    (s : List Char) : (lower s).contains sign = s.contains sign := by
  rw [Bool.eq_iff_iff, List.contains_iff_mem, List.contains_iff_mem]
  exact sign_mem_lower_iff isSign

theorem all_isDigit_lower (s : List Char) :
    (lower s).all Char.isDigit = s.all Char.isDigit := by
  induction s with
  | nil => rfl
  | cons c s ih => simp [isDigit_toLower, ih]

theorem trimLeft_lower (s : List Char) :
    trimLeft (lower s) = lower (trimLeft s) := by
  rw [trimLeft, lower]
  rw [List.dropWhile_map]
  congr 2
  funext c
  exact isBlank_toLower c

theorem trimRight_lower (s : List Char) :
    trimRight (lower s) = lower (trimRight s) := by
  have reversed : (lower s).reverse = lower s.reverse :=
    List.map_reverse.symm
  rw [trimRight]
  rw [reversed, ← trimLeft, trimLeft_lower]
  exact List.map_reverse.symm

theorem trim_lower (s : List Char) : trim (lower s) = lower (trim s) := by
  unfold trim
  rw [trimLeft_lower, trimRight_lower]

theorem startsBlank_lower_iff {s : List Char} :
    StartsBlank (lower s) ↔ StartsBlank s := by
  cases s with
  | nil => rfl
  | cons c s => simp [StartsBlank, isBlank_toLower]

theorem endsBlank_lower_iff {s : List Char} :
    EndsBlank (lower s) ↔ EndsBlank s := by
  unfold EndsBlank lower
  rw [List.getLast?_map]
  cases s.getLast? with
  | none => simp
  | some c => simp [isBlank_toLower]

theorem dropFinal_lower {sign : Char} (isSign : IsSign sign)
    (s : List Char) :
    dropFinal sign (lower s) = lower (dropFinal sign s) := by
  induction s using List.reverseRecOn with
  | nil => rfl
  | append_singleton front c _ =>
      simp only [lower_append, lower_cons, lower_nil, dropFinal_concat,
        toLower_eq_sign_iff isSign]
      split <;> simp

theorem cutFirst?_lower {sign : Char} (isSign : IsSign sign)
    (s : List Char) :
    cutFirst? sign (lower s) =
      (cutFirst? sign s).map (Prod.map lower lower) := by
  induction s with
  | nil => rfl
  | cons c rest ih =>
      simp only [lower_cons, cutFirst?, toLower_eq_sign_iff isSign]
      split
      · rfl
      · rw [ih]
        cases cutFirst? sign rest <;> rfl

theorem cutLast?_lower {sign : Char} (isSign : IsSign sign)
    (s : List Char) :
    cutLast? sign (lower s) =
      (cutLast? sign s).map (Prod.map lower lower) := by
  induction s with
  | nil => rfl
  | cons c rest ih =>
      simp only [lower_cons, cutLast?, toLower_eq_sign_iff isSign, ih]
      cases cutLast? sign rest with
      | some parts => rfl
      | none =>
          simp only [Option.map_none]
          split <;> rfl

end VirtualHosts.Text
