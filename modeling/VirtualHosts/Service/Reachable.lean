/-!
States that steps lead to.
-/

namespace VirtualHosts.Service

/-- The states that any number of steps leads to from a start. -/
inductive Reachable {State : Type} (step : State → State → Prop)
    (start : State) : State → Prop where
  | start : Reachable step start start
  | next {before after : State} :
      Reachable step start before → step before after →
        Reachable step start after

namespace Reachable

variable {State : Type} {step : State → State → Prop} {start state : State}

/-- What holds at the start and is kept by every step holds everywhere. -/
theorem invariant {holds : State → Prop} (reached : Reachable step start state)
    (atStart : holds start)
    (kept : ∀ {before after}, step before after → holds before →
      holds after) : holds state := by
  induction reached with
  | start => exact atStart
  | next _ taken ih => exact kept taken ih

theorem trans {later : State} (reached : Reachable step start state)
    (since : Reachable step state later) : Reachable step start later := by
  induction since with
  | start => exact reached
  | next _ taken ih => exact ih.next taken

end Reachable

end VirtualHosts.Service
