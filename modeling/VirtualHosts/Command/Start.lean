import VirtualHosts.Command.Arguments
import VirtualHosts.Service.Load

/-!
What the command does before it serves: it loads the settings and the sites,
and ends with a report if either fails or if it was only asked to check them.
-/

namespace VirtualHosts.Command

open VirtualHosts.Files
open VirtualHosts.Service
open VirtualHosts.Text (decimal)

structure Report where
  status : UInt8
  output : String
  errors : String
  deriving DecidableEq

inductive Outcome where
  | ended (report : Report)
  | serving (settings : Settings) (table : RouteTable)

def programName : String := "vhost-proxy"

def versionText : String := programName ++ " 0.1.0\n"

def usageText : String :=
  "Usage: " ++ programName ++
    " [--config <FILE>] [--sites <FILE>] [--bind <ADDR>] [--check]\n"

def Stop.report : Stop → Report
  | .usage => ⟨2, "", usageText⟩
  | .version => ⟨0, versionText, ""⟩
  | .help => ⟨0, usageText, ""⟩

def failed (message : String) : Report :=
  ⟨1, "", programName ++ ": " ++ message ++ "\n"⟩

/-- The settings with what the arguments say in place of theirs. -/
def Arguments.override (arguments : Arguments) (settings : Settings) :
    Settings :=
  { settings with
    sites := (arguments.sites?.map Files.Path.mk).getD settings.sites
    listener :=
      { settings.listener with
        bindAddress := arguments.bind?.getD settings.listener.bindAddress } }

def routeLine (route : Route) : String :=
  "  " ++ route.host ++ " -> " ++ route.target.text ++ "\n"

def checked (table : RouteTable) : Report :=
  ⟨0, "configuration ok: " ++ decimal table.size ++ " site(s)\n" ++
    String.join (table.routes.map routeLine), ""⟩

abbrev FileReader (m : Type → Type) :=
  Path → m (Except ReadFault String)

section

variable {m : Type → Type} [Monad m] (read : FileReader m)

def loadedSettings (config? : Option String) :
    m (Except LoadError Settings) :=
  match config? with
  | none => return .ok {}
  | some name => do
      let text ← read ⟨name⟩
      return (textAt ⟨name⟩ text) >>= settingsOf

/-- The settings of a file are checked before anything is put in their place,
and again afterwards. -/
def settingsFor (arguments : Arguments) :
    m (Except LoadError Settings) := do
  let settings ← loadedSettings read arguments.config?
  return settings >>= fun settings => accept (arguments.override settings)

def tableFor (path : Path) : m (Except LoadError RouteTable) := do
  let text ← read path
  return (textAt path text) >>= tableOf

def start (arguments : List String) : m Outcome :=
  match Arguments.read arguments with
  | .error stop => return .ended stop.report
  | .ok arguments => do
      match ← settingsFor read arguments with
      | .error error =>
          return .ended (failed ("configuration error: " ++ error.message))
      | .ok settings =>
          match ← tableFor read settings.sites with
          | .error error =>
              return .ended
                (failed (settings.sites.text ++ ": " ++ error.message))
          | .ok table =>
              if arguments.check then return .ended (checked table)
              else return .serving settings table

end

end VirtualHosts.Command
