import VirtualHosts.Files.Read
import VirtualHosts.Settings.Check
import VirtualHosts.Site.Error

/-!
Why settings or sites could not be loaded.
-/

namespace VirtualHosts.Service

inductive Malformed where
  | notDocument
  /-- A value does not fit its setting. -/
  | unfit
  deriving DecidableEq

def Malformed.message : Malformed → String
  | .notDocument => "the text is not a TOML document"
  | .unfit => "a value does not fit its setting"

inductive LoadError where
  | unreadable (path : Files.Path) (fault : Files.ReadFault)
  | malformed (fault : Malformed)
  | site (error : Site.Error)
  | invalid (settings : List Settings.Invalid)
  deriving DecidableEq

def LoadError.message : LoadError → String
  | .unreadable path fault =>
      "failed to read " ++ path.text ++ ": " ++ fault.message
  | .malformed fault => "parse error: " ++ fault.message
  | .site error => error.message
  | .invalid settings =>
      "validation failed: " ++
        String.intercalate ", " (settings.map Settings.Invalid.text)

end VirtualHosts.Service
