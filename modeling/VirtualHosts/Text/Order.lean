/-!
The order of texts by code point, which is also the order of their UTF-8
bytes.
-/

namespace VirtualHosts.Text

def listBefore : List Char → List Char → Bool
  | [], [] => false
  | [], _ :: _ => true
  | _ :: _, [] => false
  | c :: s, d :: t =>
      c.toNat < d.toNat || (c.toNat == d.toNat && listBefore s t)

def before (s t : String) : Bool :=
  listBefore s.toList t.toList

theorem listBefore_irrefl (s : List Char) : listBefore s s = false := by
  induction s with
  | nil => rfl
  | cons c s ih => simp [listBefore, ih]

theorem listBefore_trans {s t u : List Char}
    (first : listBefore s t = true) (second : listBefore t u = true) :
    listBefore s u = true := by
  induction s generalizing t u with
  | nil =>
      cases u with
      | nil => cases t <;> simp [listBefore] at first second
      | cons e u => rfl
  | cons c s ih =>
      cases t with
      | nil => simp [listBefore] at first
      | cons d t =>
          cases u with
          | nil => simp [listBefore] at second
          | cons e u =>
              simp only [listBefore, Bool.or_eq_true, Bool.and_eq_true,
                decide_eq_true_eq, beq_iff_eq] at first second ⊢
              rcases first with less | ⟨same, first⟩
              · rcases second with more | ⟨same', _⟩
                · left
                  omega
                · left
                  omega
              · rcases second with more | ⟨same', second⟩
                · left
                  omega
                · right
                  exact ⟨by omega, ih first second⟩

theorem listBefore_total {s t : List Char}
    (first : listBefore s t = false) (second : listBefore t s = false) :
    s = t := by
  induction s generalizing t with
  | nil => cases t with
    | nil => rfl
    | cons d t => simp [listBefore] at first
  | cons c s ih =>
      cases t with
      | nil => simp [listBefore] at second
      | cons d t =>
          simp only [listBefore, Bool.or_eq_false_iff,
            Bool.and_eq_false_iff, decide_eq_false_iff_not,
            beq_eq_false_iff_ne] at first second
          have same : c.toNat = d.toNat := by omega
          have tails : s = t := by
            apply ih
            · exact first.2.resolve_left (fun differ => differ same)
            · exact second.2.resolve_left (fun differ => differ same.symm)
          rw [tails, Char.toNat_inj.mp same]

theorem before_irrefl (s : String) : before s s = false :=
  listBefore_irrefl s.toList

theorem before_trans {s t u : String} (first : before s t = true)
    (second : before t u = true) : before s u = true :=
  listBefore_trans first second

theorem before_of_not_before {s t : String} (different : s ≠ t)
    (later : before s t = false) : before t s = true := by
  cases order : before t s with
  | true => rfl
  | false =>
      exact absurd (String.toList_inj.mp (listBefore_total later order))
        different

end VirtualHosts.Text
