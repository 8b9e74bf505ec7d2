import Mathlib

/-!
Steps that may fail, one after another: what each of them gave when all of them
succeed, and which one failed when they do not.  A list of results is in step
with the list of what they came from.
-/

namespace VirtualHosts

variable {ε α β : Type}

@[simp] theorem ok_bind (a : α) (next : α → Except ε β) :
    (Except.ok a >>= next) = next a := rfl

@[simp] theorem error_bind (fault : ε) (next : α → Except ε β) :
    (Except.error fault >>= next) = .error fault := rfl

theorem bind_eq_ok_iff {first : Except ε α} {next : α → Except ε β} {b : β} :
    first >>= next = .ok b ↔ ∃ a, first = .ok a ∧ next a = .ok b := by
  cases first with
  | ok a => simp
  | error fault => simp

/-- A check has only one result, so it need not be named. -/
theorem check_bind_eq_ok_iff {check : Except ε Unit}
    {next : Unit → Except ε β} {b : β} :
    check >>= next = .ok b ↔ check = .ok () ∧ next () = .ok b := by
  rw [bind_eq_ok_iff]
  exact ⟨fun ⟨(), passed, read⟩ => ⟨passed, read⟩,
    fun ⟨passed, read⟩ => ⟨(), passed, read⟩⟩

theorem bind_eq_error_iff {first : Except ε α} {next : α → Except ε β}
    {fault : ε} :
    first >>= next = .error fault ↔
      first = .error fault ∨ ∃ a, first = .ok a ∧ next a = .error fault := by
  cases first with
  | ok a => simp
  | error fault => simp

theorem mapError_eq_ok_iff {φ : Type} {result : Except ε α} {f : ε → φ}
    {a : α} : result.mapError f = .ok a ↔ result = .ok a := by
  cases result <;> simp [Except.mapError]

theorem mapError_eq_error_iff {φ : Type} {result : Except ε α} {f : ε → φ}
    {fault : φ} :
    result.mapError f = .error fault ↔
      ∃ first, result = .error first ∧ f first = fault := by
  cases result <;> simp [Except.mapError]

theorem foldlM_invariant {step : β → α → Except ε β} {holds : β → Prop}
    (kept : ∀ b a next, holds b → step b a = .ok next → holds next)
    {s : List α} {first last : β} (start : holds first)
    (read : s.foldlM step first = .ok last) : holds last := by
  induction s generalizing first with
  | nil =>
      cases read
      exact start
  | cons a rest ih =>
      rw [List.foldlM_cons] at read
      obtain ⟨middle, stepped, read⟩ := bind_eq_ok_iff.mp read
      exact ih (kept first a middle start stepped) read

/-- A loop fails at one of its steps, after all the steps before it. -/
theorem foldlM_eq_error_iff {step : β → α → Except ε β} {s : List α} {b : β}
    {fault : ε} :
    s.foldlM step b = .error fault ↔
      ∃ front a rest middle, s = front ++ a :: rest ∧
        front.foldlM step b = .ok middle ∧ step middle a = .error fault := by
  constructor
  · intro failed
    induction s generalizing b with
    | nil => contradiction
    | cons a rest ih =>
        rw [List.foldlM_cons] at failed
        rcases bind_eq_error_iff.mp failed with here | ⟨middle, first, later⟩
        · exact ⟨[], a, rest, b, rfl, rfl, here⟩
        · obtain ⟨front, a', rest', last, rfl, read, there⟩ := ih later
          refine ⟨a :: front, a', rest', last, rfl, ?_, there⟩
          rwa [List.foldlM_cons, first]
  · rintro ⟨front, a, rest, middle, rfl, read, failed⟩
    rw [List.foldlM_append, read, ok_bind, List.foldlM_cons, failed]
    rfl

/-! Lists in step with each other. -/

theorem forall₂_of_mapM {f : α → Except ε β} {s : List α} {t : List β}
    (read : s.mapM f = .ok t) :
    List.Forall₂ (fun a b => f a = .ok b) s t := by
  induction s generalizing t with
  | nil =>
      cases read
      exact .nil
  | cons a rest ih =>
      rw [List.mapM_cons] at read
      obtain ⟨b, first, read⟩ := bind_eq_ok_iff.mp read
      obtain ⟨more, others, read⟩ := bind_eq_ok_iff.mp read
      cases read
      exact .cons first (ih others)

theorem mapM_eq_ok_iff {f : α → Except ε β} {s : List α} {t : List β} :
    s.mapM f = .ok t ↔ List.Forall₂ (fun a b => f a = .ok b) s t := by
  refine ⟨forall₂_of_mapM, ?_⟩
  intro pairs
  induction pairs with
  | nil => rfl
  | cons first _ ih =>
      rw [List.mapM_cons, first, ok_bind, ih]
      rfl

theorem forM_eq_ok_iff {check : α → Except ε Unit} {s : List α} :
    s.forM check = .ok () ↔ ∀ a ∈ s, check a = .ok () := by
  induction s with
  | nil => exact ⟨fun _ _ => nofun, fun _ => rfl⟩
  | cons a rest ih =>
      have unfolded : (a :: rest).forM check =
          check a >>= fun _ => rest.forM check := rfl
      rw [unfolded, check_bind_eq_ok_iff, List.forall_mem_cons, ih]

theorem exists_of_mem_left {r : α → β → Prop} {s : List α} {t : List β}
    (pairs : List.Forall₂ r s t) {a : α} (member : a ∈ s) :
    ∃ b ∈ t, r a b := by
  induction pairs with
  | nil => contradiction
  | @cons first second s t related _ ih =>
      rcases List.mem_cons.mp member with rfl | later
      · exact ⟨second, List.mem_cons_self, related⟩
      · obtain ⟨b, found, holds⟩ := ih later
        exact ⟨b, List.mem_cons_of_mem second found, holds⟩

theorem exists_of_mem_right {r : α → β → Prop} {s : List α} {t : List β}
    (pairs : List.Forall₂ r s t) {b : β} (member : b ∈ t) :
    ∃ a ∈ s, r a b :=
  exists_of_mem_left pairs.flip member

end VirtualHosts
