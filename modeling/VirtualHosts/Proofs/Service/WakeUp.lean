import Mathlib
import VirtualHosts.Service.Draining

/-!
A drain never sleeps through the end of the last connection.  The count is the
number of connections that are not yet taken off it, and a drain that waits at
a count of zero has a connection left that is about to wake it.
-/

namespace VirtualHosts.Service.Draining

variable {state next : State}

/-- Whether the drain goes by a count that was not zero, and was not woken
since it was ready. -/
def Drain.isUnwoken : Drain → Bool
  | .pausing woken => !woken
  | .waiting woken => !woken
  | _ => false

theorem Drain.isUnwoken_wake (drain : Drain) : drain.wake.isUnwoken = false := by
  cases drain <;> rfl

/-- What every step keeps. -/
structure Consistent (state : State) : Prop where
  counted : state.count = state.connections.count .counted
  pending : state.drain.isUnwoken = true → state.count = 0 →
    .leaving ∈ state.connections

theorem consistent_start : Consistent start where
  counted := rfl
  pending := by
    intro unwoken
    contradiction

namespace Consistent

theorem track (consistent : Consistent state) :
    Consistent
      { state with
        count := state.count + 1
        connections := state.connections ++ [.counted] } where
  counted := by simp [consistent.counted]
  pending := by
    intro _ zero
    contradiction

theorem leave (consistent : Consistent state) {front back : List Connection}
    (found : state.connections = front ++ .counted :: back) :
    Consistent
      { state with
        count := state.count - 1
        connections := front ++ .leaving :: back } where
  counted := by
    have counted := consistent.counted
    rw [found, List.count_append, List.count_cons_self] at counted
    simp only
    rw [counted, List.count_append, List.count_cons_of_ne (by decide)]
    omega
  pending := by
    intro _ _
    simp

theorem wake (consistent : Consistent state) {front back : List Connection}
    (found : state.connections = front ++ .leaving :: back) :
    Consistent
      { state with
        connections := front ++ back
        drain := state.drain.wake } where
  counted := by
    have counted := consistent.counted
    rw [found, List.count_append, List.count_cons_of_ne (by decide),
      ← List.count_append] at counted
    exact counted
  pending := by
    intro unwoken
    rw [Drain.isUnwoken_wake] at unwoken
    contradiction

/-- The drain's own steps: it goes to sleep only at a count that is not
zero. -/
theorem drain (consistent : Consistent state) {drain : Drain}
    (kept : drain.isUnwoken = true →
      state.drain.isUnwoken = true ∨ state.count ≠ 0) :
    Consistent { state with drain := drain } where
  counted := consistent.counted
  pending := by
    intro unwoken zero
    rcases kept unwoken with before | nonzero
    · exact consistent.pending before zero
    · contradiction

theorem step (consistent : Consistent state) (taken : Step state next) :
    Consistent next := by
  cases taken with
  | track => exact consistent.track
  | leave found => exact consistent.leave found
  | wake found => exact consistent.wake found
  | prepare => exact consistent.drain fun unwoken => by contradiction
  | finish => exact consistent.drain fun unwoken => by contradiction
  | pause _ nonzero => exact consistent.drain fun _ => Or.inr nonzero
  | wait pausing =>
      apply consistent.drain
      intro unwoken
      left
      rw [pausing]
      exact unwoken
  | resume => exact consistent.drain fun unwoken => by contradiction
  | giveUp => exact consistent.drain fun unwoken => by contradiction

end Consistent

theorem consistent_of_reachable (reached : Reachable Step start state) :
    Consistent state :=
  reached.invariant consistent_start fun taken consistent =>
    consistent.step taken

/-! The end of a drain. -/

theorem drained_of_wake {drain : Drain} (drained : drain.wake = .ended true) :
    drain = .ended true := by
  cases drain with
  | ended _ => exact drained
  | _ => contradiction

theorem drained_cases (taken : Step state next)
    (drained : next.drain = .ended true) :
    state.drain = .ended true ∨
      ∃ woken, state.drain = .ready woken ∧ state.count = 0 ∧
        next = { state with drain := .ended true } := by
  cases taken with
  | track => exact Or.inl drained
  | leave => exact Or.inl drained
  | wake => exact Or.inl (drained_of_wake drained)
  | finish ready zero => exact Or.inr ⟨_, ready, zero, rfl⟩
  | giveUp => cases drained
  | _ => contradiction

theorem exists_zero_of_drained (reached : Reachable Step start state)
    (drained : state.drain = .ended true) :
    ∃ earlier woken, Reachable Step start earlier ∧
      earlier.drain = .ready woken ∧ earlier.count = 0 ∧
      Reachable Step { earlier with drain := .ended true } state := by
  induction reached with
  | start => contradiction
  | @next before after reached taken ih =>
      rcases drained_cases taken drained with already | ⟨woken, ready, zero, rfl⟩
      · obtain ⟨earlier, woken, before, ready, zero, since⟩ := ih already
        exact ⟨earlier, woken, before, ready, zero, since.next taken⟩
      · exact ⟨before, woken, reached, ready, zero, .start⟩

/-- What holds while connections come and go during a drain. -/
structure Attentive (state : State) : Prop where
  counted : state.count = state.connections.count .counted
  /-- No connection is taken off a count of zero. -/
  positive : .counted ∈ state.connections → 0 < state.count
  /-- A drain succeeds by reading zero, and by nothing else. -/
  drained : state.drain = .ended true →
    ∃ earlier woken, Reachable Step start earlier ∧
      earlier.drain = .ready woken ∧ earlier.count = 0 ∧
      Reachable Step { earlier with drain := .ended true } state
  /-- A drain that waits at zero is still to be woken. -/
  pending : state.drain = .waiting false → state.count = 0 →
    .leaving ∈ state.connections ∧
      ∃ next, Step state next ∧ next.drain = .waiting true

theorem attentive_of_reachable (reached : Reachable Step start state) :
    Attentive state := by
  have consistent := consistent_of_reachable reached
  refine ⟨consistent.counted, ?_, exists_zero_of_drained reached, ?_⟩
  · intro member
    rw [consistent.counted]
    exact List.count_pos_iff.mpr member
  · intro waiting zero
    have unwoken : state.drain.isUnwoken = true := by
      rw [waiting]
      rfl
    have leaving := consistent.pending unwoken zero
    obtain ⟨front, back, found⟩ := List.append_of_mem leaving
    refine ⟨leaving, _, .wake found, ?_⟩
    rw [waiting]
    rfl

/-- The drain reads one open connection and waits; the connection is off the
count and has not woken it. -/
def asleep : State := ⟨0, [.leaving], .waiting false⟩

theorem reachable_asleep : Reachable Step start asleep := by
  have tracked := Reachable.start.next (Step.track start)
  have ready := tracked.next (.prepare rfl)
  have pausing := ready.next (.pause rfl (by decide))
  have waiting := pausing.next (.wait rfl)
  exact waiting.next (@Step.leave _ [] [] rfl)

theorem attentive_asleep :
    Reachable Step start asleep ∧ asleep.drain = .waiting false ∧
      asleep.count = 0 ∧ Attentive asleep :=
  ⟨reachable_asleep, rfl, rfl, attentive_of_reachable reachable_asleep⟩

end VirtualHosts.Service.Draining
