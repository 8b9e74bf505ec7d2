import VirtualHosts.Files.Path
import VirtualHosts.Proxy.Exchange

/-!
The settings of the server.  Every setting has a default, so that a settings
file only names what differs.
-/

namespace VirtualHosts

namespace Settings

structure Listener where
  bindAddress : String := "0.0.0.0:80"
  maxConnections : UInt64 := 10000
  deriving DecidableEq

/-- Times in whole seconds. -/
structure Timeouts where
  connect : UInt64 := 5
  request : UInt64 := 30
  idle : UInt64 := 90
  headerRead : UInt64 := 30
  shutdownGrace : UInt64 := 10
  deriving DecidableEq

structure Backends where
  maxIdlePerHost : UInt64 := 32
  /-- The longest response body that is passed on, in bytes. -/
  maxResponseBody : UInt64 := 64 * 1024 * 1024
  deriving DecidableEq

structure Observability where
  logLevel : String := "info"
  metricsEnabled : Bool := false
  metricsAddress : String := "127.0.0.1:9090"
  deriving DecidableEq

structure Reload where
  watch : Bool := true
  deriving DecidableEq

end Settings

structure Settings where
  sites : Files.Path := ⟨"Sitefile"⟩
  listener : Settings.Listener := {}
  timeouts : Settings.Timeouts := {}
  backends : Settings.Backends := {}
  observability : Settings.Observability := {}
  reload : Settings.Reload := {}
  deriving DecidableEq

/-- What the settings allow an exchange with a backend. -/
def Settings.limits (settings : Settings) : Proxy.Limits :=
  ⟨settings.timeouts.request.toNat,
    settings.backends.maxResponseBody.toNat⟩

end VirtualHosts
