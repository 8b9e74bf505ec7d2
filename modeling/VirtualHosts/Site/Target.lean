import VirtualHosts.Address.Port
import VirtualHosts.Files.Path

/-!
What answers a virtual host: a backend process, or the files below a
directory.
-/

namespace VirtualHosts.Site

open VirtualHosts.Address

structure Backend where
  host : String
  port : UInt16
  deriving DecidableEq

inductive Target where
  | backend (address : Backend)
  | files (root : Files.Path)
  deriving DecidableEq

/-- A host with a colon is written in brackets, unless it starts with one. -/
def Backend.text (address : Backend) : String :=
  let host := address.host.toList
  if host.contains ':' && host.head? ≠ some '[' then
    "[" ++ address.host ++ "]:" ++ portText address.port
  else address.host ++ ":" ++ portText address.port

def Target.text : Target → String
  | .backend address => "backend " ++ address.text
  | .files root => "files " ++ root.text

/-- Targets are the same when their backends are equal or their roots name
the same place. -/
def Target.same : Target → Target → Bool
  | .backend first, .backend second => first = second
  | .files first, .files second => first.same second
  | _, _ => false

end VirtualHosts.Site
