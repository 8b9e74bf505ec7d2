import VirtualHosts.Route.Table
import VirtualHosts.Service.LoadError
import VirtualHosts.Settings.Read

/-!
Loading settings and route tables from files.
-/

namespace VirtualHosts.Service

open VirtualHosts.Files

/-- Settings that may be served with are passed on. -/
def accept (settings : Settings) : Except LoadError Settings :=
  match settings.invalid with
  | [] => .ok settings
  | invalid => .error (.invalid invalid)

def settingsOf (text : String) : Except LoadError Settings :=
  match Toml.Table.read? text with
  | none => .error (.malformed .notDocument)
  | some table =>
      match Settings.ofTable? table with
      | none => .error (.malformed .unfit)
      | some settings => accept settings

def tableOf (text : String) : Except LoadError RouteTable :=
  (RouteTable.read text).mapError .site

/-- A file's text, and the error that names the file without it. -/
def textAt (path : Path) (read : Except ReadFault String) :
    Except LoadError String :=
  read.mapError (.unreadable path)

end VirtualHosts.Service
