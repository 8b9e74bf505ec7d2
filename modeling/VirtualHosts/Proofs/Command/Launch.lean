import Mathlib
import VirtualHosts.Command.Launch
import VirtualHosts.Command.Start
import VirtualHosts.Proofs.Bind

/-!
Settings that pass their check, where they are used.  Their addresses are read
as what they were checked to be.  Their number of slots is only checked not to
be zero, and the listener cannot count every other number.
-/

namespace VirtualHosts

open VirtualHosts.Address
open VirtualHosts.Files
open VirtualHosts.Service

/-! What is checked. -/

namespace Settings

/-- What settings have to be that nothing is found wrong with. -/
structure Valid (settings : Settings) : Prop where
  sites : settings.sites.isEmpty = false
  bindAddress : ∃ address,
    Socket.ofText? settings.listener.bindAddress = some address
  positive : ∀ setting : Positive, setting.of settings ≠ 0
  metricsAddress : settings.observability.metricsEnabled = true →
    ∃ address,
      Socket.ofText? settings.observability.metricsAddress = some address

theorem isSocket_iff {written : String} :
    isSocket written = true ↔
      ∃ address, Socket.ofText? written = some address :=
  Option.isSome_iff_exists

theorem checkPositives_eq_nil_iff {settings : Settings} :
    [Positive.maxConnections, .connect, .request, .idle, .headerRead,
      .maxResponseBody].flatMap settings.checkPositive = [] ↔
    ∀ setting : Positive, setting.of settings ≠ 0 := by
  have one (setting : Positive) :
      settings.checkPositive setting = [] ↔ setting.of settings ≠ 0 := by
    simp [checkPositive]
  rw [List.flatMap_eq_nil_iff]
  simp only [one]
  constructor
  · intro checked setting
    refine checked setting ?_
    cases setting <;> simp
  · intro positive setting _
    exact positive setting

theorem invalid_eq_nil_iff {settings : Settings} :
    settings.invalid = [] ↔ settings.Valid := by
  have sites : settings.checkSites = [] ↔ settings.sites.isEmpty = false := by
    simp [checkSites]
  have bindAddress : settings.checkBindAddress = [] ↔
      ∃ address,
        Socket.ofText? settings.listener.bindAddress = some address := by
    rw [← isSocket_iff]
    simp [checkBindAddress]
  have metricsAddress : settings.checkMetricsAddress = [] ↔
      (settings.observability.metricsEnabled = true → ∃ address,
        Socket.ofText? settings.observability.metricsAddress =
          some address) := by
    rw [← isSocket_iff]
    simp [checkMetricsAddress]
  rw [invalid]
  simp only [List.append_eq_nil_iff, sites, bindAddress,
    checkPositives_eq_nil_iff, metricsAddress]
  constructor
  · rintro ⟨⟨⟨named, bound⟩, positive⟩, shown⟩
    exact ⟨named, bound, positive, shown⟩
  · intro valid
    exact ⟨⟨⟨valid.sites, valid.bindAddress⟩, valid.positive⟩,
      valid.metricsAddress⟩

end Settings

/-! What is passed on. -/

namespace Service

theorem accept_eq_ok_iff {settings accepted : Settings} :
    accept settings = .ok accepted ↔
      settings.invalid = [] ∧ accepted = settings := by
  unfold accept
  split
  · rename_i valid
    simp [valid, eq_comm]
  · rename_i invalid
    exact ⟨nofun, fun accepted => absurd accepted.1 invalid⟩

theorem invalid_eq_nil_of_settingsOf {text : String} {settings : Settings}
    (read : settingsOf text = .ok settings) : settings.invalid = [] := by
  unfold settingsOf at read
  split at read
  · contradiction
  · split at read
    · contradiction
    · obtain ⟨valid, rfl⟩ := accept_eq_ok_iff.mp read
      exact valid

end Service

namespace Command

theorem invalid_eq_nil_of_settingsFor {read : FileReader Id}
    {arguments : Arguments} {settings : Settings}
    (loaded : settingsFor read arguments = .ok settings) :
    settings.invalid = [] := by
  obtain ⟨_, _, accepted⟩ := bind_eq_ok_iff.mp loaded
  obtain ⟨valid, rfl⟩ := accept_eq_ok_iff.mp accepted
  exact valid

theorem invalid_eq_nil_of_start {read : FileReader Id}
    {arguments : List String} {settings : Settings} {table : RouteTable}
    (started : start read arguments = .serving settings table) :
    settings.invalid = [] := by
  unfold start at started
  split at started
  · contradiction
  · rename_i arguments _
    simp only [bind, pure] at started
    split at started
    · contradiction
    · rename_i loaded
      split at started
      · contradiction
      · split at started
        · contradiction
        · cases started
          exact invalid_eq_nil_of_settingsFor loaded

/-! What comes of it. -/

theorem metrics_of_enabled {settings : Settings} (valid : settings.Valid)
    (enabled : settings.observability.metricsEnabled = true) :
    ∃ address,
      Socket.ofText? settings.observability.metricsAddress = some address ∧
        Metrics.of settings = .shown address := by
  obtain ⟨address, read⟩ := valid.metricsAddress enabled
  exact ⟨address, read, by simp [Metrics.of, enabled, read]⟩

theorem bind_of_address {written : String} {address : Socket}
    (read : Socket.ofText? written = some address) (slots : Nat) :
    Listener.bind written slots =
      if slots ≤ Listener.slotLimit then
        .ok { address := address, free := slots }
      else .error .tooManySlots := by
  rw [Listener.bind, read]

theorem launch_of_refused {settings : Settings} {address : Socket}
    (read : Socket.ofText? settings.listener.bindAddress = some address)
    {refusal? : Socket → Option String} {reason : String}
    (refused : refusal? address = some reason) :
    launch refusal? settings = .failed ("failed to bind: " ++ reason) := by
  simp only [launch, read, Option.bind_some, refused]

theorem launch_of_granted {settings : Settings} {address : Socket}
    (read : Socket.ofText? settings.listener.bindAddress = some address)
    {refusal? : Socket → Option String} (granted : refusal? address = none) :
    launch refusal? settings =
      if settings.listener.maxConnections.toNat ≤ Listener.slotLimit then
        .serving (Metrics.of settings)
          { address := address
            free := settings.listener.maxConnections.toNat }
      else .aborted := by
  simp only [launch, read, Option.bind_some, granted, bind_of_address read]
  by_cases few : settings.listener.maxConnections.toNat ≤ Listener.slotLimit
  · simp only [if_pos few]
  · simp only [if_neg few]

/-- Settings in which nothing is found wrong name an address to listen on, and
one for the metrics if these are on.  If the system grants the address, they are
served with as long as their connections can be counted, and otherwise the
process is gone. -/
theorem launch_exact {settings : Settings} (checked : settings.invalid = [])
    (refusal? : Socket → Option String) :
    ∃ address,
      Socket.ofText? settings.listener.bindAddress = some address ∧
      (settings.observability.metricsEnabled = true →
        ∃ shown, Metrics.of settings = .shown shown) ∧
      launch refusal? settings =
        match refusal? address with
        | some reason => .failed ("failed to bind: " ++ reason)
        | none =>
            if settings.listener.maxConnections.toNat ≤
                Listener.slotLimit then
              .serving (Metrics.of settings)
                { address := address
                  free := settings.listener.maxConnections.toNat }
            else .aborted := by
  have valid := Settings.invalid_eq_nil_iff.mp checked
  obtain ⟨address, read⟩ := valid.bindAddress
  refine ⟨address, read, ?_, ?_⟩
  · intro enabled
    obtain ⟨shown, _, metrics⟩ := metrics_of_enabled valid enabled
    exact ⟨shown, metrics⟩
  · cases answer : refusal? address with
    | some reason => exact launch_of_refused read answer
    | none => exact launch_of_granted read answer

/-- As many connections as can be counted, and metrics. -/
def fullSettings : Settings :=
  { listener := { maxConnections := 2305843009213693951 }
    observability := { metricsEnabled := true } }

theorem launch_exact_fullSettings :
    fullSettings.invalid = [] ∧
    ∃ address, Socket.ofText? "0.0.0.0:80" = some address ∧
      (∃ shown, Metrics.of fullSettings = .shown shown) ∧
      launch (fun _ => none) fullSettings =
        .serving (Metrics.of fullSettings)
          { address := address, free := 2305843009213693951 } := by
  have checked : fullSettings.invalid = [] := by decide
  obtain ⟨address, read, metrics, launched⟩ :=
    launch_exact checked fun _ => none
  refine ⟨checked, address, read, metrics rfl, ?_⟩
  rw [launched]
  rfl

/-- A number of connections that a file can name and that cannot be counted. -/
theorem launch_aborts :
    ∃ settings,
      settingsOf "[listener]\nmax_connections = 2305843009213693952\n" =
        .ok settings ∧
      settings.invalid = [] ∧
      launch (fun _ => none) settings = .aborted := by
  have table : Toml.Table.read?
      "[listener]\nmax_connections = 2305843009213693952\n" =
        some [("listener", .table
          [("max_connections", .integer 2305843009213693952)])] := by
    cbv
  have settings : settingsOf
      "[listener]\nmax_connections = 2305843009213693952\n" =
        .ok { listener := { maxConnections := 2305843009213693952 } } := by
    rw [settingsOf, table]
    rfl
  have address : Socket.ofText? "0.0.0.0:80" = some ⟨.v4 ⟨0, 0, 0, 0⟩, 80⟩ := by
    decide
  refine ⟨_, settings, invalid_eq_nil_of_settingsOf settings, ?_⟩
  rw [launch_of_granted address rfl]
  rfl

end Command

end VirtualHosts
