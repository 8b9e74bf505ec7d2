import VirtualHosts.Service.Listener
import VirtualHosts.Settings.Basic

/-!
What the command does with the settings that it is to serve with: it shows the
metrics if they are asked for, and has a listener made.
-/

namespace VirtualHosts.Command

open VirtualHosts.Address
open VirtualHosts.Service

/-- Where the metrics are shown. -/
inductive Metrics where
  | off
  | shown (address : Socket)
  /-- What is written is no address.  This is logged, and they stay off. -/
  | unreadable (written : String)
  deriving DecidableEq

inductive Launch where
  | serving (metrics : Metrics) (listener : Listener)
  | failed (message : String)
  /-- The process is gone without a report. -/
  | aborted

def Metrics.of (settings : Settings) : Metrics :=
  if settings.observability.metricsEnabled then
    match Socket.ofText? settings.observability.metricsAddress with
    | some address => .shown address
    | none => .unreadable settings.observability.metricsAddress
  else .off

/-- The system may refuse an address, for the reason that `refusal?` gives, and
does so before the slots are counted. -/
def launch (refusal? : Socket → Option String) (settings : Settings) :
    Launch :=
  match (Socket.ofText? settings.listener.bindAddress).bind refusal? with
  | some reason => .failed ("failed to bind: " ++ reason)
  | none =>
      match Listener.bind settings.listener.bindAddress
          settings.listener.maxConnections.toNat with
      | .ok listener => .serving (Metrics.of settings) listener
      | .error .notAddress => .failed BindFault.notAddress.message
      | .error .tooManySlots => .aborted

end VirtualHosts.Command
