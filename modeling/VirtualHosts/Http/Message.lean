import VirtualHosts.Address.Socket
import VirtualHosts.Header.Rule
import VirtualHosts.Host.Key
import VirtualHosts.Http.RequestTarget

/-!
Requests and responses.
-/

namespace VirtualHosts.Http

open VirtualHosts.Header

structure Request where
  method : String
  target : RequestTarget
  fields : Fields
  body : List UInt8
  /-- Where the connection comes from, if it is known. -/
  client? : Option Address.Ip

structure Response where
  status : Nat
  fields : Fields
  body : List UInt8
  deriving DecidableEq

namespace Request

def hostField? (request : Request) : Option String :=
  (request.fields.get? .host).bind Value.text?

/-- The text that names the host: the authority of the target if it has a
key, and the first `Host` field otherwise. -/
def hostText? (request : Request) : Option String :=
  match request.target.authority? with
  | some authority =>
      if (Host.key? authority).isSome then some authority
      else request.hostField?
  | none => request.hostField?

def hostKey? (request : Request) : Option String :=
  request.hostText?.bind Host.key?

def id (request : Request) : String :=
  ((request.fields.get? .requestId).bind Value.text?).getD "unknown"

end Request

def Response.applyRules (response : Response) (rules : List Rule) :
    Response :=
  { response with fields := Rule.applyAll rules response.fields }

end VirtualHosts.Http
