import VirtualHosts.Address.Socket
import VirtualHosts.Settings.Basic

/-!
Settings that cannot be served with.  All of them are reported at once, in the
order of the settings.
-/

namespace VirtualHosts.Settings

open VirtualHosts.Address

inductive Positive where
  | maxConnections
  | connect
  | request
  | idle
  | headerRead
  | maxResponseBody
  deriving DecidableEq

inductive Invalid where
  | noSiteFile
  | bindAddress (written : String)
  | zero (setting : Positive)
  | metricsAddress (written : String)
  deriving DecidableEq

def Positive.name : Positive → String
  | .maxConnections => "listener.max_connections"
  | .connect => "timeouts.connect_secs"
  | .request => "timeouts.request_secs"
  | .idle => "timeouts.idle_secs"
  | .headerRead => "timeouts.header_read_secs"
  | .maxResponseBody => "upstream.max_response_body_bytes"

def Positive.of (settings : Settings) : Positive → UInt64
  | .maxConnections => settings.listener.maxConnections
  | .connect => settings.timeouts.connect
  | .request => settings.timeouts.request
  | .idle => settings.timeouts.idle
  | .headerRead => settings.timeouts.headerRead
  | .maxResponseBody => settings.backends.maxResponseBody

namespace Invalid

def setting : Invalid → String
  | .noSiteFile => "sites"
  | .bindAddress _ => "listener.bind_address"
  | .zero setting => setting.name
  | .metricsAddress _ => "observability.metrics_address"

def message : Invalid → String
  | .noSiteFile => "must name a site file"
  | .bindAddress written => "`" ++ written ++ "` is not a socket address"
  | .zero _ => "must be greater than 0"
  | .metricsAddress written =>
      "`" ++ written ++ "` is not a socket address"

def text (invalid : Invalid) : String :=
  invalid.setting ++ ": " ++ invalid.message

end Invalid

def isSocket (written : String) : Bool :=
  (Socket.ofText? written).isSome

def checkSites (settings : Settings) : List Invalid :=
  if settings.sites.isEmpty then [.noSiteFile] else []

def checkBindAddress (settings : Settings) : List Invalid :=
  if isSocket settings.listener.bindAddress then []
  else [.bindAddress settings.listener.bindAddress]

/-- The address for metrics counts only when metrics are on. -/
def checkMetricsAddress (settings : Settings) : List Invalid :=
  if settings.observability.metricsEnabled &&
      !isSocket settings.observability.metricsAddress then
    [.metricsAddress settings.observability.metricsAddress]
  else []

def checkPositive (settings : Settings) (setting : Positive) :
    List Invalid :=
  if setting.of settings = 0 then [.zero setting] else []

def invalid (settings : Settings) : List Invalid :=
  settings.checkSites ++ settings.checkBindAddress ++
    [.maxConnections, .connect, .request, .idle, .headerRead,
      .maxResponseBody].flatMap settings.checkPositive ++
    settings.checkMetricsAddress

end VirtualHosts.Settings
