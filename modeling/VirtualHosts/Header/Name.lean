import VirtualHosts.Text.Cut

/-!
Header names are tokens of ASCII letters, digits and a few signs.  Case does
not count, so a name is kept in lower case.
-/

namespace VirtualHosts.Header

open VirtualHosts.Text

def nameSigns : List Char :=
  ['!', '#', '$', '%', '&', '\'', '*', '+', '-', '.', '^', '_', '`', '|', '~']

def isNameChar (c : Char) : Bool :=
  (97 ≤ c.toNat && c.toNat ≤ 122) || c.isDigit || nameSigns.contains c

def isName (s : List Char) : Bool :=
  !s.isEmpty && s.length ≤ 65535 && s.all isNameChar

structure Name where
  text : String
  isName_text : isName text.toList = true
  deriving DecidableEq

namespace Name

def ofText? (s : String) : Option Name :=
  let text := String.ofList (lower s.toList)
  if valid : isName text.toList = true then some ⟨text, valid⟩ else none

def allow : Name := ⟨"allow", by decide⟩
def connection : Name := ⟨"connection", by decide⟩
def contentLength : Name := ⟨"content-length", by decide⟩
def contentType : Name := ⟨"content-type", by decide⟩
def forwardedFor : Name := ⟨"x-forwarded-for", by decide⟩
def forwardedHost : Name := ⟨"x-forwarded-host", by decide⟩
def forwardedProto : Name := ⟨"x-forwarded-proto", by decide⟩
def host : Name := ⟨"host", by decide⟩
def keepAlive : Name := ⟨"keep-alive", by decide⟩
def proxyAuthenticate : Name := ⟨"proxy-authenticate", by decide⟩
def proxyAuthorization : Name := ⟨"proxy-authorization", by decide⟩
def proxyConnection : Name := ⟨"proxy-connection", by decide⟩
def requestId : Name := ⟨"x-request-id", by decide⟩
def te : Name := ⟨"te", by decide⟩
def trailer : Name := ⟨"trailer", by decide⟩
def transferEncoding : Name := ⟨"transfer-encoding", by decide⟩
def upgrade : Name := ⟨"upgrade", by decide⟩

theorem text_of_ofText? {s : String} {name : Name}
    (read : ofText? s = some name) :
    name.text = String.ofList (lower s.toList) := by
  unfold ofText? at read
  simp only at read
  split at read
  · simp only [Option.some.injEq] at read
    rw [← read]
  · simp at read

end Name

end VirtualHosts.Header
