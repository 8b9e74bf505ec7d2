import VirtualHosts.Settings.Basic
import VirtualHosts.Toml.Document

/-!
Settings from a document.  Names that are not settings are passed over.  A
group of settings is a table, or an array with the values in their order; a
moment in its place names no settings.
-/

namespace VirtualHosts.Settings

open VirtualHosts.Toml (Value Table)

def text? : Value → Option String
  | .text s => some s
  | _ => none

def flag? : Value → Option Bool
  | .boolean b => some b
  | _ => none

/-- A whole number that is not negative. -/
def count? : Value → Option UInt64
  | .integer n => if 0 ≤ n then some (UInt64.ofNat n.toNat) else none
  | _ => none

/-- The value of a setting, or its default if it is not written. -/
def orDefault {α : Type} (read? : Value → Option α) (default : α) :
    Option Value → Option α
  | none => some default
  | some value => read? value

/-- What a group says about each of its settings, `names` being all of them
in order. -/
def written? (names : List String) : Value → Option (String → Option Value)
  | .table entries => some fun name => entries.lookup name
  | .array items => some fun name => items[names.idxOf name]?
  | .moment _ => some fun _ => none
  | _ => none

def Listener.ofValue? (value : Value) : Option Listener := do
  let default : Listener := {}
  let written ← written? ["bind_address", "max_connections"] value
  let bindAddress ←
    orDefault text? default.bindAddress (written "bind_address")
  let maxConnections ←
    orDefault count? default.maxConnections (written "max_connections")
  return ⟨bindAddress, maxConnections⟩

def Timeouts.ofValue? (value : Value) : Option Timeouts := do
  let default : Timeouts := {}
  let written ←
    written? ["connect_secs", "request_secs", "idle_secs",
      "header_read_secs", "shutdown_grace_secs"] value
  let connect ← orDefault count? default.connect (written "connect_secs")
  let request ← orDefault count? default.request (written "request_secs")
  let idle ← orDefault count? default.idle (written "idle_secs")
  let headerRead ←
    orDefault count? default.headerRead (written "header_read_secs")
  let shutdownGrace ←
    orDefault count? default.shutdownGrace (written "shutdown_grace_secs")
  return ⟨connect, request, idle, headerRead, shutdownGrace⟩

def Backends.ofValue? (value : Value) : Option Backends := do
  let default : Backends := {}
  let written ←
    written? ["pool_max_idle_per_host", "max_response_body_bytes"] value
  let maxIdlePerHost ←
    orDefault count? default.maxIdlePerHost
      (written "pool_max_idle_per_host")
  let maxResponseBody ←
    orDefault count? default.maxResponseBody
      (written "max_response_body_bytes")
  return ⟨maxIdlePerHost, maxResponseBody⟩

def Observability.ofValue? (value : Value) : Option Observability := do
  let default : Observability := {}
  let written ←
    written? ["log_level", "metrics_enabled", "metrics_address"] value
  let logLevel ← orDefault text? default.logLevel (written "log_level")
  let metricsEnabled ←
    orDefault flag? default.metricsEnabled (written "metrics_enabled")
  let metricsAddress ←
    orDefault text? default.metricsAddress (written "metrics_address")
  return ⟨logLevel, metricsEnabled, metricsAddress⟩

def Reload.ofValue? (value : Value) : Option Reload := do
  let default : Reload := {}
  let written ← written? ["watch"] value
  let watch ← orDefault flag? default.watch (written "watch")
  return ⟨watch⟩

def ofTable? (table : Table) : Option Settings := do
  let default : Settings := {}
  let sites ← orDefault text? default.sites.text (table.lookup "sites")
  let listener ←
    orDefault Listener.ofValue? default.listener (table.lookup "listener")
  let timeouts ←
    orDefault Timeouts.ofValue? default.timeouts (table.lookup "timeouts")
  let backends ←
    orDefault Backends.ofValue? default.backends (table.lookup "upstream")
  let observability ←
    orDefault Observability.ofValue? default.observability
      (table.lookup "observability")
  let reload ←
    orDefault Reload.ofValue? default.reload (table.lookup "reload")
  return ⟨⟨sites⟩, listener, timeouts, backends, observability, reload⟩

end VirtualHosts.Settings
