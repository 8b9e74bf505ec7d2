import Mathlib
import VirtualHosts.Proofs.Proxy.Counting
import VirtualHosts.Proofs.Route.Same
import VirtualHosts.Service.Session

/-!
Runs of a session.  The live table always does the same as the one that the last
good text makes; a table that does the same as the live one is not put in its
place; and a snapshot goes on to answer as the live table did when it was taken.
-/

namespace VirtualHosts

namespace Service

open VirtualHosts.Proxy

namespace SessionStep

/-- The table that the text of a step makes, if it has one that makes any. -/
def table? : SessionStep → Option RouteTable
  | .replace sites => (tableOf sites).toOption
  | .reload file? => (Session.load file?).toOption
  | _ => none

/-- Whether the step reloads a file that makes no table. -/
def failsToReload : SessionStep → Bool
  | .reload file? => (Session.load file?).toOption.isNone
  | _ => false

def snapshotName? : SessionStep → Option String
  | .snapshot name => some name
  | _ => none

end SessionStep

/-- Whether a table that was sent or given was put in place. -/
def SessionResult.changed? : SessionResult → Option Bool
  | .replaced changed => some changed
  | .sent changed => some changed
  | _ => none

namespace Session

def run (session : Session) (steps : List SessionStep) : Session :=
  steps.foldl (fun session step => (session.step step).2) session

/-- The table of the last text that makes one. -/
def lastTable (steps : List SessionStep) : RouteTable :=
  (steps.filterMap SessionStep.table?).getLast?.getD .empty

variable {session : Session} {step : SessionStep}

theorem run_append (session : Session) (earlier later : List SessionStep) :
    session.run (earlier ++ later) = (session.run earlier).run later :=
  List.foldl_append

theorem run_concat (session : Session) (steps : List SessionStep)
    (step : SessionStep) :
    session.run (steps ++ [step]) = ((session.run steps).step step).2 :=
  run_append session steps [step]

theorem lastTable_concat (steps : List SessionStep) (step : SessionStep) :
    lastTable (steps ++ [step]) = step.table?.getD (lastTable steps) := by
  unfold lastTable
  rw [List.filterMap_append]
  cases made : step.table? with
  | none => simp [made]
  | some table => simp [made]

/-! What one step does. -/

/-- The effects that a step can have. -/
inductive Effect (session : Session) (step : SessionStep)
    (result : SessionResult) (after : Session) : Prop
  | placed {table : RouteTable} (made : step.table? = some table)
      (readable : step.failsToReload = false)
      (unnamed : step.snapshotName? = none)
      (told : result.changed? = some (session.live.replace table).1)
      (next : after =
        { session with live := (session.live.replace table).2 })
  | failed (made : step.table? = none) (unreadable : step.failsToReload = true)
      (unnamed : step.snapshotName? = none) (told : result = .notSent)
      (next : after =
        { session with events := session.events ++ [.reload .failed] })
  | taken {name : String} (made : step.table? = none)
      (readable : step.failsToReload = false)
      (named : step.snapshotName? = some name) (told : result.changed? = none)
      (next : after =
        { session with
          snapshots := (name, session.live.current) :: session.snapshots })
  | unchanged (made : step.table? = none)
      (readable : step.failsToReload = false)
      (unnamed : step.snapshotName? = none) (told : result.changed? = none)
      (next : after = session)

theorem effect_replace (session : Session) (sites : String) :
    Effect session (.replace sites) (session.step (.replace sites)).1
      (session.step (.replace sites)).2 := by
  cases read : tableOf sites with
  | error error =>
      simp only [Session.step, read]
      exact .unchanged (by simp [SessionStep.table?, read, Except.toOption]) rfl
        rfl rfl rfl
  | ok table =>
      simp only [Session.step, read]
      exact .placed (by simp [SessionStep.table?, read, Except.toOption]) rfl
        rfl rfl rfl

theorem effect_reload (session : Session) (file? : Option (List UInt8)) :
    Effect session (.reload file?) (session.step (.reload file?)).1
      (session.step (.reload file?)).2 := by
  cases read : load file? with
  | error error =>
      simp only [Session.step, Session.reload, Service.reload, read]
      exact .failed (by simp [SessionStep.table?, read, Except.toOption])
        (by simp [SessionStep.failsToReload, read, Except.toOption]) rfl rfl rfl
  | ok table =>
      simp only [Session.step, Session.reload, Service.reload, read,
        List.append_nil]
      exact .placed (by simp [SessionStep.table?, read, Except.toOption])
        (by simp [SessionStep.failsToReload, read, Except.toOption]) rfl rfl rfl

theorem effect_step (session : Session) (step : SessionStep) :
    Effect session step (session.step step).1 (session.step step).2 := by
  cases step with
  | replace sites => exact effect_replace session sites
  | reload file? => exact effect_reload session file?
  | snapshot name => exact .taken rfl rfl rfl rfl rfl
  | lookup host name? =>
      cases name? with
      | none => exact .unchanged rfl rfl rfl rfl rfl
      | some name =>
          simp only [Session.step]
          cases session.snapshot? name with
          | none => exact .unchanged rfl rfl rfl rfl rfl
          | some taken => exact .unchanged rfl rfl rfl rfl rfl
  | compare name =>
      simp only [Session.step]
      cases session.snapshot? name with
      | none => exact .unchanged rfl rfl rfl rfl rfl
      | some taken => exact .unchanged rfl rfl rfl rfl rfl

namespace Effect

variable {result : SessionResult} {after : Session}

theorem of_table (effect : Effect session step result after)
    {table : RouteTable} (made : step.table? = some table) :
    result.changed? = some (session.live.replace table).1 ∧
      after.live = (session.live.replace table).2 := by
  cases effect with
  | placed made' _ _ told next =>
      rw [made] at made'
      cases made'
      exact ⟨told, by rw [next]⟩
  | failed made' => simp [made] at made'
  | taken made' => simp [made] at made'
  | unchanged made' => simp [made] at made'

theorem of_no_table (effect : Effect session step result after)
    (unmade : step.table? = none) :
    result.changed? = none ∧ after.live = session.live := by
  cases effect with
  | placed made => simp [unmade] at made
  | failed _ _ _ told next => exact ⟨by rw [told]; rfl, by rw [next]⟩
  | taken _ _ _ told next => exact ⟨told, by rw [next]⟩
  | unchanged _ _ _ told next => exact ⟨told, by rw [next]⟩

theorem events_eq (effect : Effect session step result after) :
    after.events = session.events ++
      if step.failsToReload then [.reload .failed] else [] := by
  cases effect with
  | placed _ readable _ _ next => simp [next, readable]
  | failed _ unreadable _ _ next => simp [next, unreadable]
  | taken _ readable _ _ next => simp [next, readable]
  | unchanged _ readable _ _ next => simp [next, readable]

theorem notSent (effect : Effect session step result after)
    (unreadable : step.failsToReload = true) : result = .notSent := by
  cases effect with
  | failed _ _ _ told => exact told
  | placed _ readable => simp [unreadable] at readable
  | taken _ readable => simp [unreadable] at readable
  | unchanged _ readable => simp [unreadable] at readable

end Effect

/-! The live table. -/

theorem meaning_live_step (session : Session) (step : SessionStep) :
    (session.step step).2.live.current.table.meaning =
      (step.table?.getD session.live.current.table).meaning := by
  have effect := effect_step session step
  cases made : step.table? with
  | none =>
      rw [(effect.of_no_table made).2]
      rfl
  | some table =>
      rw [(effect.of_table made).2]
      exact session.live.meaning_replace table

theorem meaning_live_run (steps : List SessionStep) :
    (start.run steps).live.current.table.meaning =
      (lastTable steps).meaning := by
  induction steps using List.reverseRecOn with
  | nil => rfl
  | append_singleton steps step ih =>
      rw [run_concat, lastTable_concat, meaning_live_step]
      cases step.table? with
      | none => exact ih
      | some table => rfl

/-! Serial numbers.  A snapshot has the number of the live table only if it is
the live table. -/

def Numbered (session : Session) : Prop :=
  ∀ taken ∈ session.snapshots, taken.2 = session.live.current ∨
    taken.2.serial < session.live.current.serial

theorem numbered_step (numbered : session.Numbered) (step : SessionStep) :
    (session.step step).2.Numbered := by
  cases effect_step session step with
  | @placed table _ _ _ _ next =>
      rw [next]
      intro taken member
      have before := numbered taken member
      simp only [LiveTable.replace]
      split
      · exact before
      · right
        rcases before with same | earlier
        · rw [same]
          exact Nat.lt_succ_self _
        · exact Nat.lt_succ_of_lt earlier
  | failed _ _ _ _ next =>
      rw [next]
      exact numbered
  | taken _ _ _ _ next =>
      rw [next]
      intro taken member
      rcases List.mem_cons.mp member with rfl | member
      · exact Or.inl rfl
      · exact numbered taken member
  | unchanged _ _ _ _ next =>
      rw [next]
      exact numbered

theorem numbered_run (steps : List SessionStep) :
    (start.run steps).Numbered := by
  induction steps using List.reverseRecOn with
  | nil =>
      intro taken member
      contradiction
  | append_singleton steps step ih =>
      rw [run_concat]
      exact numbered_step ih step

/-! Snapshots. -/

theorem snapshot?_step {name : String}
    (unnamed : step.snapshotName? ≠ some name) :
    (session.step step).2.snapshot? name = session.snapshot? name := by
  cases effect_step session step with
  | placed _ _ _ _ next => rw [next]; rfl
  | failed _ _ _ _ next => rw [next]; rfl
  | @taken other _ _ named _ next =>
      have different : name ≠ other := by
        intro same
        rw [same] at unnamed
        exact unnamed named
      rw [next, snapshot?, List.lookup_cons]
      simp [beq_false_of_ne different, snapshot?]
  | unchanged _ _ _ _ next => rw [next]

theorem snapshot?_run {name : String} {later : List SessionStep}
    (unnamed : ∀ step ∈ later, step.snapshotName? ≠ some name) :
    (session.run later).snapshot? name = session.snapshot? name := by
  induction later generalizing session with
  | nil => rfl
  | cons step rest ih =>
      have first := unnamed step List.mem_cons_self
      have others := fun other member =>
        unnamed other (List.mem_cons_of_mem step member)
      calc (session.run (step :: rest)).snapshot? name
          = (session.step step).2.snapshot? name := ih others
        _ = session.snapshot? name := snapshot?_step first

theorem snapshot?_run_snapshot {name : String}
    {earlier later : List SessionStep}
    (unnamed : ∀ step ∈ later, step.snapshotName? ≠ some name) :
    (session.run (earlier ++ .snapshot name :: later)).snapshot? name =
      some (session.run earlier).live.current := by
  have split : earlier ++ .snapshot name :: later =
      (earlier ++ [.snapshot name]) ++ later := by simp
  rw [split, run_append, snapshot?_run unnamed, run_concat]
  simp [Session.step, snapshot?]

theorem step_lookup_snapshot {name host : String} {taken : PublishedTable}
    (kept : session.snapshot? name = some taken) :
    (session.step (.lookup host (some name))).1 =
      .route (taken.table.lookup host) := by
  simp only [Session.step, kept]

/-- The metric that counts reloads of files that make no table. -/
def failedReloads : String :=
  "proxy_route_reloads_total\x7boutcome=failed\x7d"

/-- What a step does to a session that began with no table and has taken other
steps before. -/
structure Follows (steps : List SessionStep) (step : SessionStep)
    (before : Session) (result : SessionResult) (after : Session) : Prop where
  /-- The live table does the same as the last one that a text made. -/
  live : after.live.current.table.same (lastTable (steps ++ [step])) = true
  /-- A table that does the same as the live one is not put in its place. -/
  kept : ∀ table, step.table? = some table →
    before.live.current.table.same table = true →
      result.changed? = some false ∧ after.live = before.live
  /-- Any other table becomes live, as a table that was never live before. -/
  placed : ∀ table, step.table? = some table →
    before.live.current.table.same table = false →
      result.changed? = some true ∧ after.live.current.table = table ∧
        before.live.current.serial < after.live.current.serial ∧
        ∀ taken ∈ before.snapshots,
          taken.2.serial < after.live.current.serial
  /-- Without a table nothing is put in place. -/
  refused : step.table? = none →
    result.changed? = none ∧ after.live = before.live
  unsent : step.failsToReload = true → result = .notSent
  failures : counted after.events failedReloads =
    counted before.events failedReloads +
      if step.failsToReload then 1 else 0
  /-- A snapshot answers as the live table did when it was taken. -/
  snapshots : ∀ earlier name later,
    steps = earlier ++ .snapshot name :: later →
    (∀ step ∈ later, step.snapshotName? ≠ some name) →
      ∀ host, (before.step (.lookup host (some name))).1 =
        ((start.run earlier).step (.lookup host none)).1

theorem counted_failedReloads :
    counted [.reload .failed] failedReloads = 1 := by
  decide

theorem follows_run (steps : List SessionStep) (step : SessionStep) :
    Follows steps step (start.run steps) ((start.run steps).step step).1
      (start.run (steps ++ [step])) := by
  have live : (start.run (steps ++ [step])).live.current.table.meaning =
      (lastTable (steps ++ [step])).meaning :=
    meaning_live_run (steps ++ [step])
  rw [run_concat] at live ⊢
  have effect := effect_step (start.run steps) step
  refine ⟨RouteTable.same_iff_meaning.mpr live, ?_, ?_, effect.of_no_table,
    effect.notSent, ?_, ?_⟩
  · intro table made same
    obtain ⟨told, next⟩ := effect.of_table made
    rw [LiveTable.replace, if_pos same] at told next
    exact ⟨told, next⟩
  · intro table made different
    obtain ⟨told, next⟩ := effect.of_table made
    rw [LiveTable.replace, if_neg (by simp [different])] at told next
    rw [next]
    refine ⟨told, rfl, Nat.lt_succ_self _, ?_⟩
    intro taken member
    rcases numbered_run steps taken member with same | earlier
    · rw [same]
      exact Nat.lt_succ_self _
    · exact Nat.lt_succ_of_lt earlier
  · rw [effect.events_eq, counted_append]
    split
    · rw [counted_failedReloads]
    · rfl
  · intro earlier name later split unnamed host
    apply step_lookup_snapshot
    rw [split]
    exact snapshot?_run_snapshot unnamed

end Session

end Service

end VirtualHosts
