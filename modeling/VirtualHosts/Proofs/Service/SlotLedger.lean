import Mathlib
import VirtualHosts.Service.Listener
import VirtualHosts.Service.Slots

/-!
No slot is lost and none comes back twice: each is free, or with the accept
that waits for a client, or with one connection's task.  So there are never
more open connections than slots.
-/

namespace VirtualHosts.Service

namespace Slots

variable {slots : Nat} {state next : State}

def State.all (state : State) : List Nat :=
  state.free ++ state.taken

theorem all_start (slots : Nat) : (start slots).all = List.range slots := by
  simp [State.all, State.taken, start, Loop.slots, Accept.slots]

theorem all_giveUp {accept : Accept}
    (accepting : state.loop = .accepting accept) {loop : Loop}
    (empty : loop.slots = []) :
    State.all { state.giveBack accept.slots with loop := loop } =
      state.all := by
  have held : state.loop.slots = accept.slots := by
    rw [accepting]
    rfl
  simp only [State.all, State.taken, State.giveBack, held, empty,
    List.nil_append, List.append_assoc]

theorem all_finish {front back : List Task} {ending : Ending} {slot : Nat}
    (found : state.tasks = front ++ .closed ending slot :: back) :
    (State.all { state.giveBack [slot] with tasks := front ++ back }).Perm
      state.all := by
  simp only [State.all, State.taken, State.giveBack, found, List.map_append,
    List.map_cons, Task.slot, List.append_assoc, List.singleton_append]
  -- The slot moves from among the tasks to where the free ones end.
  apply List.Perm.append_left
  simp only [← List.append_assoc]
  exact List.perm_middle.symm

/-- A step moves slots from one place to another. -/
theorem all_perm (taken : Step state next) : next.all.Perm state.all := by
  cases taken with
  | acquire queued free =>
      simp only [State.all, State.taken, queued, free, Loop.slots,
        Accept.slots, List.nil_append, List.singleton_append]
      exact List.perm_middle
  | callOff accepting => rw [all_giveUp accepting rfl]
  | stop accepting => rw [all_giveUp accepting rfl]
  | acceptFails listening =>
      apply List.Perm.of_eq
      exact all_giveUp listening rfl
  | resume pausing =>
      apply List.Perm.of_eq
      simp only [State.all, State.taken, pausing, Loop.slots, Accept.slots]
  | accept listening =>
      simp only [State.all, State.taken, listening, Loop.slots, Accept.slots,
        List.map_append, List.nil_append]
      apply List.Perm.append_left
      exact List.perm_append_comm
  | close ending found =>
      apply List.Perm.of_eq
      simp only [State.all, State.taken, found, List.map_append, List.map_cons,
        Task.slot]
  | finish found => exact all_finish found

theorem all_perm_range (reached : Reachable Step (start slots) state) :
    state.all.Perm (List.range slots) := by
  induction reached with
  | start => rw [all_start]
  | next _ taken ih => exact (all_perm taken).trans ih

theorem counted_of_reachable (reached : Reachable Step (start slots) state) :
    state.free.length + state.loop.slots.length + state.tasks.length =
      slots := by
  have length := (all_perm_range reached).length_eq
  simp only [State.all, State.taken, List.length_append, List.length_map,
    List.length_range] at length
  omega

/-- What holds of the slots, wherever a run has come to. -/
structure Conserved (slots : Nat) (state : State) : Prop where
  /-- Every slot is in one place. -/
  placed : (state.free ++ state.taken).Perm (List.range slots)
  counted : state.free.length + state.loop.slots.length +
    state.tasks.length = slots
  bounded : state.connections ≤ slots
  /-- With no accept and no task, all slots are free again. -/
  restored : state.loop.slots = [] → state.tasks = [] →
    state.free.length = slots

theorem conserved_of_reachable (reached : Reachable Step (start slots) state) :
    Conserved slots state := by
  have counted := counted_of_reachable reached
  refine ⟨all_perm_range reached, counted, ?_, ?_⟩
  · have served : state.connections ≤ state.tasks.length :=
      List.countP_le_length
    omega
  · intro unused idle
    simpa [unused, idle] using counted

/-- Of two connections one has crashed, an accept has failed and one was
called off; the next accept has the slot that came back. -/
def busy : State :=
  ⟨[], .accepting (.listening 0), [.serving 1]⟩

theorem reachable_busy : Reachable Step (start 2) busy := by
  have taken := Reachable.start.next (@Step.acquire (start 2) 0 [1] rfl rfl)
  have served := taken.next (.accept rfl)
  have retaken := served.next (@Step.acquire _ 1 [] rfl rfl)
  have failed := retaken.next (.acceptFails rfl)
  have resumed := failed.next (.resume rfl)
  have taken := resumed.next (@Step.acquire _ 1 [] rfl rfl)
  have calledOff := taken.next (.callOff rfl)
  have taken := calledOff.next (@Step.acquire _ 1 [] rfl rfl)
  have served := taken.next (.accept rfl)
  have closed := served.next (@Step.close _ [] [.serving 1] 0 .crashed rfl)
  have finished := closed.next (@Step.finish _ [] [.serving 1] .crashed 0 rfl)
  exact finished.next (@Step.acquire _ 0 [] rfl rfl)

theorem conserved_busy : Reachable Step (start 2) busy ∧ Conserved 2 busy :=
  ⟨reachable_busy, conserved_of_reachable reachable_busy⟩

end Slots

/-! A listener's clients are accepted by such a loop. -/

open Slots

namespace Listener

inductive Step : Listener → Listener → Prop where
  | connect (listener : Listener) : Step listener listener.connect
  | accept {listener next : Listener} {client : Nat}
      (accepted : listener.accept? = some (client, next)) :
      Step listener next
  | release (listener : Listener) (index : Nat) :
      Step listener (listener.release index).2

def held (listener : Listener) : Nat :=
  listener.accepted.count true

/-- The loop has as many free slots and as many tasks. -/
structure Follows (state : State) (listener : Listener) : Prop where
  queued : state.loop = .accepting .queued
  free : state.free.length = listener.free
  served : ∃ slots : List Nat,
    state.tasks = slots.map .serving ∧ slots.length = listener.held

variable {listener next : Listener} {state : State} {slots : Nat}

theorem accept?_eq_some {client : Nat}
    (accepted : listener.accept? = some (client, next)) :
    listener.free = next.free + 1 ∧ next.held = listener.held + 1 := by
  rw [accept?] at accepted
  split at accepted
  · rename_i free first waiting some _
    cases accepted
    simp [held, some]
  · contradiction

theorem held_release {index : Nat}
    (has : listener.accepted[index]? = some true) :
    (listener.release index).2.held + 1 = listener.held := by
  obtain ⟨inside, same⟩ := List.getElem?_eq_some_iff.mp has
  have positive : 0 < listener.accepted.count true :=
    List.count_pos_iff.mpr (same ▸ List.getElem_mem inside)
  rw [release, if_pos has, held, held, List.count_set inside]
  simp [same]
  omega

namespace Follows

theorem accept (follows : Follows state listener) {client : Nat}
    (accepted : listener.accept? = some (client, next)) :
    ∃ after, Reachable Slots.Step state after ∧ Follows after next := by
  obtain ⟨slots, served, length⟩ := follows.served
  obtain ⟨free, more⟩ := accept?_eq_some accepted
  obtain ⟨slot, rest, some⟩ : ∃ slot rest, state.free = slot :: rest := by
    apply List.exists_cons_of_length_pos
    rw [follows.free]
    omega
  have taken := Reachable.start.next (Slots.Step.acquire follows.queued some)
  refine ⟨_, taken.next (.accept rfl), rfl, ?_, slots ++ [slot], ?_, ?_⟩
  · have length := follows.free
    rw [some, List.length_cons] at length
    simp only
    omega
  · simp [served]
  · simp [length, more]

theorem release (follows : Follows state listener) (index : Nat) :
    ∃ after, Reachable Slots.Step state after ∧
      Follows after (listener.release index).2 := by
  by_cases has : listener.accepted[index]? = some true
  · obtain ⟨slots, served, length⟩ := follows.served
    have fewer := held_release has
    cases slots with
    | nil =>
        simp only [List.length_nil] at length
        omega
    | cons slot rest =>
        have closed := Reachable.start.next
          (@Slots.Step.close state [] (rest.map .serving) slot .finished served)
        have finished := closed.next
          (@Slots.Step.finish _ [] (rest.map .serving) .finished slot rfl)
        refine ⟨_, finished, follows.queued, ?_, rest, rfl, ?_⟩
        · simp [State.giveBack, Listener.release, has, follows.free]
        · simp only [List.length_cons] at length
          omega
  · rw [Listener.release, if_neg has]
    exact ⟨state, .start, follows⟩

theorem step (follows : Follows state listener)
    (taken : Step listener next) :
    ∃ after, Reachable Slots.Step state after ∧ Follows after next := by
  cases taken with
  | connect => exact ⟨state, .start, follows.queued, follows.free, follows.served⟩
  | accept accepted => exact follows.accept accepted
  | release index => exact follows.release index

end Follows

theorem bind_eq_ok {address : String}
    (bound : bind address slots = .ok listener) :
    listener.free = slots ∧ listener.held = 0 := by
  rw [bind] at bound
  split at bound
  · split at bound
    · cases bound
      exact ⟨rfl, rfl⟩
    · contradiction
  · contradiction

/-- Whatever the clients do, a loop can do the same with its slots. -/
theorem exists_follows {address : String}
    (bound : bind address slots = .ok listener)
    (reached : Reachable Step listener next) :
    ∃ state, Reachable Slots.Step (start slots) state ∧
      Follows state next := by
  induction reached with
  | start =>
      obtain ⟨free, none⟩ := bind_eq_ok bound
      exact ⟨start slots, .start, rfl, by simp [start, free], [], rfl, none.symm⟩
  | next _ taken ih =>
      obtain ⟨state, before, follows⟩ := ih
      obtain ⟨after, since, follows⟩ := follows.step taken
      exact ⟨after, before.trans since, follows⟩

theorem free_add_held {address : String}
    (bound : bind address slots = .ok listener)
    (reached : Reachable Step listener next) :
    next.free + next.held = slots := by
  obtain ⟨state, reachable, follows⟩ := exists_follows bound reached
  obtain ⟨taken, served, length⟩ := follows.served
  have counted := counted_of_reachable reachable
  rw [follows.queued, follows.free, served, List.length_map, length] at counted
  exact counted

end Listener

end VirtualHosts.Service
