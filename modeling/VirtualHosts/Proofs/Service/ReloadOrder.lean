import Mathlib
import VirtualHosts.Proofs.Route.Same
import VirtualHosts.Service.Reloaders

/-!
Which table is live when all reloads are done: the one that was sent last.
It is the file's table unless a hang-up reload read the file before it was
written and sent its table after the watcher had sent the newer one.
-/

namespace VirtualHosts.Service

theorem reload_eq_some_iff {loaded : Except LoadError RouteTable}
    {table : RouteTable} :
    (reload loaded).1 = some table ↔ loaded = .ok table := by
  cases loaded with
  | ok read => simp [reload]
  | error error => simp [reload]

theorem meaning_applyReload (live : LiveTable) (table : RouteTable) :
    (applyReload live table).2.current.table.meaning = table.meaning := by
  have replaced := live.meaning_replace table
  rw [applyReload]
  split
  · rename_i published
    rwa [published] at replaced
  · rename_i kept
    rwa [kept] at replaced

namespace Reloaders

variable {state next : State}

/-- The table that is live once the channel is empty. -/
def State.newest (state : State) : RouteTable :=
  state.channel.getLast?.getD state.live.current.table

theorem newest_send (state : State) (loaded : Loaded) :
    (state.send loaded).newest = loaded.table := by
  simp [State.newest, State.send]

theorem meaning_newest_apply {table : RouteTable} {rest : List RouteTable}
    (sent : state.channel = table :: rest) :
    (state.apply table rest).newest.meaning = state.newest.meaning := by
  cases rest with
  | nil =>
      simp only [State.newest, State.apply, sent, List.getLast?_nil,
        List.getLast?_singleton, Option.getD_none, Option.getD_some]
      exact meaning_applyReload state.live table
  | cons other rest =>
      simp only [State.newest, State.apply, sent, List.getLast?_cons,
        Option.getD_some]

/-- The table is what the file compiles to, unless the file was written since
it was read. -/
def Loaded.IsCurrent (loaded : Loaded) (file : String) : Prop :=
  loaded.current = true → tableOf file = .ok loaded.table

theorem Loaded.isCurrent_outdate (loaded : Loaded) (file : String) :
    loaded.outdate.IsCurrent file := by
  intro current
  contradiction

/-- What every run keeps to. -/
structure Tracked (state : State) : Prop where
  valid : ∃ table, tableOf state.file = .ok table
  ready : ∀ {reloader loaded}, state.loaded? reloader = some loaded →
    loaded.reloader = reloader ∧ loaded.IsCurrent state.file
  /-- Once it has caught up, the watcher reads nothing old. -/
  watched : ∀ {loaded}, state.caughtUp = true →
    state.loaded? .watcher = some loaded → loaded.current = true
  unsent : state.latest? = none → state.channel = [] ∧
    (state.caughtUp = true → tableOf state.file = .ok state.newest)
  sent : ∀ {loaded}, state.latest? = some loaded →
    state.newest.meaning = loaded.table.meaning ∧
      loaded.IsCurrent state.file ∧
      (state.caughtUp = true →
        loaded.current = true ∨ loaded.reloader = .hangup)

theorem tracked_start {file : String} {table : RouteTable}
    (valid : tableOf file = .ok table) : Tracked (start file table) where
  valid := ⟨table, valid⟩
  ready := by simp [start]
  watched := by simp [start]
  unsent := fun _ => ⟨rfl, fun _ => valid⟩
  sent := by simp [start]

namespace Tracked

theorem write (tracked : Tracked state) {file : String} {table : RouteTable}
    (valid : tableOf file = .ok table) : Tracked (state.write file) where
  valid := ⟨table, valid⟩
  ready := by
    intro reloader loaded outdated
    obtain ⟨before, ready, rfl⟩ := Option.map_eq_some_iff.mp outdated
    exact ⟨(tracked.ready ready).1, before.isCurrent_outdate file⟩
  watched := fun caughtUp => by contradiction
  unsent := fun none =>
    ⟨(tracked.unsent (Option.map_eq_none_iff.mp none)).1,
      fun caughtUp => by contradiction⟩
  sent := by
    intro loaded outdated
    obtain ⟨before, latest, rfl⟩ := Option.map_eq_some_iff.mp outdated
    exact ⟨(tracked.sent latest).1, before.isCurrent_outdate file,
      fun caughtUp => by contradiction⟩

theorem read (tracked : Tracked state) {reloader : Reloader}
    {table : RouteTable} (read : tableOf state.file = .ok table) :
    Tracked (state.read reloader table) where
  valid := tracked.valid
  ready := by
    intro other loaded ready
    simp only [State.read] at ready
    split at ready
    · rename_i same
      cases ready
      exact ⟨same.symm, fun _ => read⟩
    · exact tracked.ready ready
  watched := by
    intro loaded caughtUp ready
    simp only [State.read] at ready
    split at ready
    · cases ready
      rfl
    · exact tracked.watched caughtUp ready
  unsent := tracked.unsent
  sent := tracked.sent

theorem send (tracked : Tracked state) {reloader : Reloader} {loaded : Loaded}
    (ready : state.loaded? reloader = some loaded) :
    Tracked (state.send loaded) where
  valid := tracked.valid
  ready := by
    intro other loaded' ready'
    simp only [State.send] at ready'
    split at ready'
    · contradiction
    · exact tracked.ready ready'
  watched := by
    intro loaded' caughtUp ready'
    simp only [State.send] at caughtUp ready'
    split at ready'
    · contradiction
    · rename_i other
      -- The sender is the hang-up reloader, so the watcher had caught up before.
      have unwatched : ¬loaded.reloader = .watcher := fun same =>
        other same.symm
      simp only [unwatched, decide_false, Bool.false_and,
        Bool.or_false] at caughtUp
      exact tracked.watched caughtUp ready'
  unsent := fun none => by contradiction
  sent := by
    intro loaded' latest
    cases latest
    obtain ⟨same, isCurrent⟩ := tracked.ready ready
    refine ⟨by rw [newest_send], isCurrent, ?_⟩
    intro caughtUp
    cases which : loaded.reloader with
    | hangup => exact Or.inr rfl
    | watcher =>
        left
        simp only [State.send, which, decide_true, Bool.true_and,
          Bool.or_eq_true] at caughtUp
        rcases caughtUp with before | current
        · rw [← same, which] at ready
          exact tracked.watched before ready
        · exact current

theorem apply (tracked : Tracked state) {table : RouteTable}
    {rest : List RouteTable} (sent : state.channel = table :: rest) :
    Tracked (state.apply table rest) where
  valid := tracked.valid
  ready := tracked.ready
  watched := tracked.watched
  unsent := by
    intro none
    have empty := (tracked.unsent none).1
    rw [sent] at empty
    contradiction
  sent := by
    intro loaded latest
    rw [meaning_newest_apply sent]
    exact tracked.sent latest

theorem step (tracked : Tracked state) (taken : Step state next) :
    Tracked next := by
  cases taken with
  | write valid => exact tracked.write valid
  | read _ read => exact tracked.read (reload_eq_some_iff.mp read)
  | send ready => exact tracked.send ready
  | apply sent => exact tracked.apply sent

end Tracked

theorem tracked_of_reachable {file : String} {table : RouteTable}
    (valid : tableOf file = .ok table)
    (reached : Reachable Step (start file table) state) : Tracked state :=
  reached.invariant (tracked_start valid) fun taken tracked =>
    tracked.step taken

theorem newest_of_isQuiet (quiet : state.isQuiet = true) :
    state.newest = state.live.current.table := by
  simp only [State.isQuiet, Bool.and_eq_true, List.isEmpty_iff] at quiet
  rw [State.newest, quiet.2]
  rfl

/-- When nothing is on its way and the watcher has sent what was written last,
the live table is another than the file's exactly if the last to send was the
hang-up reloader, with another table that it had read before the writing. -/
theorem live_stale_iff {file : String} {table : RouteTable}
    (valid : tableOf file = .ok table)
    (reached : Reachable Step (start file table) state)
    (quiet : state.isQuiet = true) (caughtUp : state.caughtUp = true) :
    ∃ now, tableOf state.file = .ok now ∧
      (state.live.current.table.same now = false ↔
        ∃ loaded, state.latest? = some loaded ∧
          loaded.reloader = .hangup ∧ loaded.current = false ∧
          loaded.table.same now = false) := by
  have tracked := tracked_of_reachable valid reached
  obtain ⟨now, compiled⟩ := tracked.valid
  refine ⟨now, compiled, ?_⟩
  cases latest : state.latest? with
  | none =>
      -- The watcher has sent nothing, so the file was never written.
      have sameTable := (tracked.unsent latest).2 caughtUp
      rw [newest_of_isQuiet quiet, compiled] at sameTable
      cases sameTable
      simp [RouteTable.same_eq_false_iff_meaning]
  | some loaded =>
      obtain ⟨sameMeaning, isCurrent, sender⟩ := tracked.sent latest
      rw [newest_of_isQuiet quiet] at sameMeaning
      simp only [RouteTable.same_eq_false_iff_meaning, sameMeaning,
        Option.some.injEq, exists_eq_left']
      constructor
      · intro different
        -- A table of the current file would not differ from the file's.
        have old : ¬loaded.current = true := by
          intro current
          have sameTable := isCurrent current
          rw [compiled] at sameTable
          cases sameTable
          contradiction
        exact ⟨(sender caughtUp).resolve_left old,
          Bool.eq_false_iff.mpr old, different⟩
      · intro overtaken
        exact overtaken.2.2

/-! A run in which the hang-up reloader is overtaken. -/

section Overtaken

variable (old new : String) (oldTable newTable : RouteTable)

/-- The file is read on a hang-up, written, and read and sent by the watcher
before the older table is sent. -/
def overtaken : State :=
  ((((((start old oldTable).read .hangup oldTable).write new).read .watcher
    newTable).send ⟨.watcher, newTable, true⟩).apply newTable []).send
      ⟨.hangup, oldTable, false⟩ |>.apply oldTable []

variable {old new oldTable newTable}

theorem reachable_overtaken (wasValid : tableOf old = .ok oldTable)
    (isValid : tableOf new = .ok newTable) :
    Reachable Step (start old oldTable)
      (overtaken old new oldTable newTable) := by
  have compiledOld := reload_eq_some_iff.mpr wasValid
  have compiledNew := reload_eq_some_iff.mpr isValid
  have readOld := Reachable.start.next
    (@Step.read (start old oldTable) .hangup _ rfl compiledOld)
  have written := readOld.next (.write isValid)
  have readNew := written.next (@Step.read _ .watcher _ rfl compiledNew)
  have sentNew := readNew.next (@Step.send _ .watcher _ rfl)
  have appliedNew := sentNew.next (@Step.apply _ newTable [] rfl)
  have sentOld := appliedNew.next (@Step.send _ .hangup _ rfl)
  exact sentOld.next (@Step.apply _ oldTable [] rfl)

theorem meaning_live_overtaken :
    (overtaken old new oldTable newTable).live.current.table.meaning =
      oldTable.meaning :=
  meaning_applyReload _ oldTable

end Overtaken

def siteText : String := "a.example \x7b\n root d\n file_server\n\x7d\n"

def siteTable : RouteTable :=
  ⟨[⟨"a.example", .files ⟨"d"⟩, []⟩], by simp⟩

theorem tableOf_eq_ok {text : String} {table : RouteTable}
    (routes : (tableOf text).toOption.map RouteTable.routes =
      some table.routes) : tableOf text = .ok table := by
  cases read : tableOf text with
  | error error =>
      rw [read] at routes
      contradiction
  | ok other =>
      rw [read] at routes
      cases other
      cases table
      cases routes
      rfl

theorem tableOf_empty : tableOf "" = .ok .empty :=
  tableOf_eq_ok (by decide +kernel)

theorem tableOf_siteText : tableOf siteText = .ok siteTable :=
  tableOf_eq_ok (by decide +kernel)

theorem live_stale_overtaken :
    tableOf "" = .ok .empty ∧
      Reachable Step (start "" .empty)
        (overtaken "" siteText .empty siteTable) ∧
      (overtaken "" siteText .empty siteTable).isQuiet = true ∧
      (overtaken "" siteText .empty siteTable).caughtUp = true ∧
      ∃ now,
        tableOf (overtaken "" siteText .empty siteTable).file = .ok now ∧
        ((overtaken "" siteText .empty siteTable).live.current.table.same
            now = false ↔
          ∃ loaded,
            (overtaken "" siteText .empty siteTable).latest? = some loaded ∧
              loaded.reloader = .hangup ∧ loaded.current = false ∧
              loaded.table.same now = false) := by
  have reached := reachable_overtaken tableOf_empty tableOf_siteText
  exact ⟨tableOf_empty, reached, rfl, rfl,
    live_stale_iff tableOf_empty reached rfl rfl⟩

/-- The file has a site, the watcher has sent it, and no site is live. -/
theorem live_overtaken_by_hangup :
    Reachable Step (start "" .empty)
        (overtaken "" siteText .empty siteTable) ∧
      tableOf "" = .ok .empty ∧
      (overtaken "" siteText .empty siteTable).isQuiet = true ∧
      (overtaken "" siteText .empty siteTable).caughtUp = true ∧
      tableOf (overtaken "" siteText .empty siteTable).file = .ok siteTable ∧
      (overtaken "" siteText .empty siteTable).live.current.table.same
        siteTable = false := by
  refine ⟨reachable_overtaken tableOf_empty tableOf_siteText, tableOf_empty,
    rfl, rfl, tableOf_siteText, ?_⟩
  rw [RouteTable.same_eq_false_iff_meaning, meaning_live_overtaken]
  decide

end Reloaders

end VirtualHosts.Service
