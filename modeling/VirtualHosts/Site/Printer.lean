import VirtualHosts.Site.Basic

/-!
Writing a site file.  Every address, path and value is quoted, every rule
stands on a line of its own, and every host is written with its scheme, a dot
at its end and a port, so that it is read back as it is.
-/

namespace VirtualHosts

namespace Site

open VirtualHosts.Header
open VirtualHosts.Text

def escapeQuoted (c : Char) : List Char :=
  if c = '"' || c = '\\' then ['\\', c] else [c]

def quote (s : List Char) : List Char :=
  '"' :: s.flatMap escapeQuoted ++ ['"']

/-- A host in brackets ends there; any other gets a dot at its end. -/
def writtenHost (host : List Char) : List Char :=
  match host with
  | '[' :: _ => plainScheme ++ host ++ ":80".toList
  | _ => plainScheme ++ host ++ ".:80".toList

def writtenHosts : List String → List Char
  | [] => []
  | [host] => writtenHost host.toList
  | host :: rest => writtenHost host.toList ++ ',' :: writtenHosts rest

def writtenBackend (backend : Backend) : List Char :=
  plainScheme ++ backend.host.toList ++
    ':' :: (Address.portText backend.port).toList

def writtenTarget : Target → List Char
  | .backend backend =>
      " reverse_proxy ".toList ++ quote (writtenBackend backend) ++ ['\n']
  | .files root =>
      " root * ".toList ++ quote root.text.toList ++
        "\n file_server\n".toList

/-- The text that the bytes of a value make; rules of a site file have values
that are texts. -/
def valueText (value : Value) : List Char :=
  ((ofUtf8? value.bytes).getD "").toList

def writtenRule : Rule → List Char
  | .set name value =>
      " header >".toList ++ name.text.toList ++
        ' ' :: quote (valueText value) ++ ['\n']
  | .add name value =>
      " header +".toList ++ name.text.toList ++
        ' ' :: quote (valueText value) ++ ['\n']
  | .delete name => " header -".toList ++ name.text.toList ++ ['\n']

def written (site : Site) : List Char :=
  quote (writtenHosts site.hosts) ++ " \x7b\n".toList ++
    writtenTarget site.target ++ site.rules.flatMap writtenRule ++
    "\x7d\n".toList

end Site

/-- The text of a site file; reading it gives the same sites. -/
def SiteFile.text (file : SiteFile) : String :=
  String.ofList (file.sites.flatMap Site.written)

end VirtualHosts
