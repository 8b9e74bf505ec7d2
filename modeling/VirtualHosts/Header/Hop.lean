import VirtualHosts.Header.Fields
import VirtualHosts.Text.Blank

/-!
Fields that describe one hop of the way and are not passed on: nine fixed
names, and whatever the `Connection` fields of the message list.
-/

namespace VirtualHosts.Header

open VirtualHosts.Text

def hopNames : List Name :=
  [.connection, .keepAlive, .transferEncoding, .te, .trailer, .upgrade,
    .proxyAuthorization, .proxyAuthenticate, .proxyConnection]

/-- The names in a list with commas; pieces that are no names are skipped. -/
def listedNames (value : Value) : List Name :=
  match value.text? with
  | none => []
  | some text =>
      (pieces ',' text.toList).filterMap fun piece =>
        Name.ofText? (String.ofList (trim piece))

namespace Fields

def connectionNames (fields : Fields) : List Name :=
  (fields.values .connection).flatMap listedNames

def hop (fields : Fields) : List Name :=
  fields.connectionNames ++ hopNames

def stripHop (fields : Fields) : Fields :=
  fields.eraseAll fields.hop

theorem values_stripHop (fields : Fields) (name : Name) :
    fields.stripHop.values name =
      if name ∈ fields.hop then [] else fields.values name :=
  fields.values_eraseAll fields.hop name

end Fields

end VirtualHosts.Header
