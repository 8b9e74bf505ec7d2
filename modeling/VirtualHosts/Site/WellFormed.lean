import VirtualHosts.Site.Basic

/-!
Well-formed site files: those that some text describes.
-/

namespace VirtualHosts

namespace Site

open VirtualHosts.Header
open VirtualHosts.Text

def isUpper (c : Char) : Bool :=
  65 ≤ c.toNat && c.toNat ≤ 90

/-- Whether a character may stand in the host of a site. -/
def isHostChar (c : Char) : Bool :=
  !isUpper c && c ≠ ',' && c ≠ '/' && c ≠ '*'

/-- Brackets go around the whole host or do not open it. -/
def isBracketedOrPlain (host : List Char) : Bool :=
  match host with
  | '[' :: inner =>
      match cutFirst? ']' inner with
      | some (_, []) => true
      | _ => false
  | _ => true

structure WellFormedHost (host : String) : Prop where
  nonempty : host.toList ≠ []
  chars : host.toList.all isHostChar = true
  brackets : isBracketedOrPlain host.toList = true

structure WellFormedBackend (backend : Backend) : Prop where
  port : backend.port ≠ 0
  nonempty : backend.host.toList ≠ []
  noSlash : '/' ∉ backend.host.toList
  opening : backend.host.toList.head? ≠ some '['
  closing : backend.host.toList.getLast? ≠ some ']'

def WellFormedTarget : Target → Prop
  | .backend backend => WellFormedBackend backend
  | .files _ => True

/-- The values of a rule are texts. -/
def WellFormedRule : Rule → Prop
  | .set _ value => (ofUtf8? value.bytes).isSome = true
  | .add _ value => (ofUtf8? value.bytes).isSome = true
  | .delete _ => True

structure WellFormed (site : Site) : Prop where
  someHost : site.hosts ≠ []
  distinct : site.hosts.Nodup
  hosts : ∀ host ∈ site.hosts, WellFormedHost host
  target : WellFormedTarget site.target
  rules : ∀ rule ∈ site.rules, WellFormedRule rule

end Site

def SiteFile.WellFormed (file : SiteFile) : Prop :=
  ∀ site ∈ file.sites, site.WellFormed

end VirtualHosts
