import VirtualHosts.Http.Message
import VirtualHosts.Text.Quoted

/-!
Why a request is not answered as asked.  Every refusal becomes a response for
that one request.
-/

namespace VirtualHosts.Http

open VirtualHosts.Header
open VirtualHosts.Text (decimal quoted utf8)

inductive Refusal where
  /-- No site has this host, or the request names none. -/
  | noRoute (host? : Option String)
  | backendFailed (backend reason : String)
  | backendTimeout (backend : String) (seconds : Nat)
  | outsideRoot (path : String)
  | notFound (path : String)
  | methodNotAllowed (method : String)
  | unreadable (reason : String)
  deriving DecidableEq

inductive LogLevel where
  | debug
  | warn
  | error
  deriving DecidableEq

def LogLevel.text : LogLevel → String
  | .debug => "DEBUG"
  | .warn => "WARN"
  | .error => "ERROR"

def reasonPhrase : Nat → String
  | 403 => "Forbidden"
  | 404 => "Not Found"
  | 405 => "Method Not Allowed"
  | 500 => "Internal Server Error"
  | 502 => "Bad Gateway"
  | _ => "Error"

namespace Refusal

def status : Refusal → Nat
  | .noRoute _ => 502
  | .backendFailed _ _ => 502
  | .backendTimeout _ _ => 502
  | .outsideRoot _ => 403
  | .notFound _ => 404
  | .methodNotAllowed _ => 405
  | .unreadable _ => 500

def kind : Refusal → String
  | .noRoute _ => "route_not_found"
  | .backendFailed _ _ => "upstream"
  | .backendTimeout _ _ => "upstream_timeout"
  | .outsideRoot _ => "path_traversal"
  | .notFound _ => "file_not_found"
  | .methodNotAllowed _ => "method_not_allowed"
  | .unreadable _ => "io"

def message : Refusal → String
  | .noRoute none => "no route for host None"
  | .noRoute (some host) => "no route for host Some(" ++ quoted host ++ ")"
  | .backendFailed backend reason =>
      "upstream " ++ backend ++ " failed: " ++ reason
  | .backendTimeout backend seconds =>
      "upstream " ++ backend ++ " timed out after " ++ decimal seconds ++ "s"
  | .outsideRoot path => "path " ++ quoted path ++ " escapes the file root"
  | .notFound path => "file not found: " ++ path
  | .methodNotAllowed method =>
      "method " ++ method ++ " not allowed for static files"
  | .unreadable reason => "I/O error: " ++ reason

def logLevel : Refusal → LogLevel
  | .unreadable _ => .error
  | .notFound _ => .debug
  | _ => .warn

def logMessage : String := "Request failed"

def fields (refusal : Refusal) : Fields :=
  let fields :=
    Fields.empty.set .contentType (.literal "text/plain; charset=utf-8")
  match refusal with
  | .methodNotAllowed _ => fields.set .allow (.literal "GET, HEAD")
  | _ => fields

def response (refusal : Refusal) : Response :=
  ⟨refusal.status, refusal.fields, utf8 (reasonPhrase refusal.status)⟩

end Refusal

end VirtualHosts.Http
