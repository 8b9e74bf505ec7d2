import VirtualHosts.Address.Ip
import VirtualHosts.Header.Fields

/-!
Fields that tell a backend who asked, how, and for which host.
-/

namespace VirtualHosts.Header

open VirtualHosts.Address

namespace Fields

/-- The client goes to the end of the chain that the first
`X-Forwarded-For` field lists. -/
def addClient (fields : Fields) (client : Ip) : Fields :=
  let chain :=
    match (fields.get? .forwardedFor).bind Value.text? with
    | some before => before ++ ", " ++ client.text
    | none => client.text
  match Value.ofText? chain with
  | some value => fields.set .forwardedFor value
  | none => fields

def addForwardedHost (fields : Fields) : Fields :=
  match fields.get? .host with
  | some host => fields.set .forwardedHost host
  | none => fields

def addForwarded (fields : Fields) (client? : Option Ip) : Fields :=
  let fields :=
    match client? with
    | some client => fields.addClient client
    | none => fields
  (fields.set .forwardedProto (.literal "http")).addForwardedHost

end Fields

end VirtualHosts.Header
