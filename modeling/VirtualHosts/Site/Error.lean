import VirtualHosts.Header.Rule

/-!
What can be wrong with a site file.  An error that belongs to a place carries
the line of the token to blame.
-/

namespace VirtualHosts.Site

open VirtualHosts.Header
open VirtualHosts.Text (decimal)

inductive Fault where
  | unterminatedQuote
  | blockNeverClosed
  | unexpectedClose
  | takesNoBlock (directive : String)
  | optionsNotFirst
  | noProtocol
  | unsupportedProtocol (protocol : String)
  | listenerOptions
  | serversWithoutBlock
  | onlyOff (option : String)
  | siteWithoutBlock
  | secondBackend
  | noBackend
  | manyBackends
  | secondRoot
  | rootUsage
  | browsing
  | fileServerArgument (argument : String)
  | rootWithoutServer
  | serverWithoutRoot
  | noTarget
  | twoTargets
  | noAddress
  | encryptedAddress (address : String)
  | unknownScheme (address : String)
  | addressPath (address : String)
  | wildcard (address : String)
  | addressWithoutHost (address : String)
  | backendScheme (address : String)
  | backendPath (address : String)
  | unclosedBracket (address : String)
  | textAfterBracket (address : String)
  | blockInRule
  | noRule
  | headerMatcher
  deriving DecidableEq

inductive HeaderFault where
  | manyValues (field : String)
  | rule (fault : RuleFault)
  deriving DecidableEq

inductive Error where
  | syntaxAt (line : Nat) (fault : Fault)
  | unknownDirective (line : Nat) (name : String)
  | invalidHost (host : String)
  | duplicateHost (host : String)
  | invalidPort (line : Nat) (value : String)
  | invalidHeader (line : Nat) (fault : HeaderFault)
  deriving DecidableEq

/-- A quoted word of a message. -/
def marked (word : String) : String :=
  "`" ++ word ++ "`"

def Fault.message : Fault → String
  | .unterminatedQuote => "unterminated quoted string"
  | .blockNeverClosed => "block is never closed"
  | .unexpectedClose => "unexpected `\x7d`"
  | .takesNoBlock directive => marked directive ++ " does not take a block"
  | .optionsNotFirst => "global options block must come first"
  | .noProtocol => "protocols needs at least one protocol"
  | .unsupportedProtocol protocol =>
      "protocol " ++ marked protocol ++ " is not supported; only h1 is served"
  | .listenerOptions => "per-listener server options are not supported"
  | .serversWithoutBlock => "servers needs a `\x7b` block"
  | .onlyOff option => "only `" ++ option ++ " off` is supported"
  | .siteWithoutBlock => "site address must be followed by a `\x7b` block"
  | .secondBackend => "reverse_proxy declared twice"
  | .noBackend => "reverse_proxy needs an upstream address"
  | .manyBackends => "reverse_proxy takes exactly one upstream"
  | .secondRoot => "root declared twice"
  | .rootUsage => "usage: root [*] <path>"
  | .browsing => "directory browsing is not supported"
  | .fileServerArgument argument =>
      "unexpected file_server argument " ++ marked argument
  | .rootWithoutServer => "root is set but file_server is missing"
  | .serverWithoutRoot => "file_server needs a root"
  | .noTarget => "site has neither reverse_proxy nor file_server"
  | .twoTargets =>
      "reverse_proxy cannot be combined with root or file_server"
  | .noAddress => "site block has no address"
  | .encryptedAddress address =>
      marked address ++
        ": https sites need TLS, which is not terminated here"
  | .unknownScheme address => marked address ++ ": unsupported scheme"
  | .addressPath address =>
      marked address ++ ": site addresses cannot have a path"
  | .wildcard address =>
      marked address ++ ": wildcard hosts are not supported"
  | .addressWithoutHost address =>
      marked address ++ ": site address needs a host name"
  | .backendScheme address =>
      marked address ++ ": only plain http upstreams are supported"
  | .backendPath address =>
      marked address ++ ": upstream address cannot have a path"
  | .unclosedBracket address => marked address ++ ": unclosed `[`"
  | .textAfterBracket address =>
      marked address ++ ": unexpected text after `]`"
  | .blockInRule => "header rules cannot open a block"
  | .noRule => "header needs a rule or a `\x7b` block"
  | .headerMatcher => "header matchers are not supported"

def HeaderFault.message : HeaderFault → String
  | .manyValues field =>
      marked field ++
        " takes a single value; quote values containing spaces"
  | .rule fault => fault.message

namespace Error

def line? : Error → Option Nat
  | .syntaxAt line _ => some line
  | .unknownDirective line _ => some line
  | .invalidHost _ => none
  | .duplicateHost _ => none
  | .invalidPort line _ => some line
  | .invalidHeader line _ => some line

/-- The same error blamed on another line. -/
def mapLine (f : Nat → Nat) : Error → Error
  | .syntaxAt line fault => .syntaxAt (f line) fault
  | .unknownDirective line name => .unknownDirective (f line) name
  | .invalidHost host => .invalidHost host
  | .duplicateHost host => .duplicateHost host
  | .invalidPort line value => .invalidPort (f line) value
  | .invalidHeader line fault => .invalidHeader (f line) fault

def atLine (line : Nat) (message : String) : String :=
  "line " ++ decimal line ++ ": " ++ message

def message : Error → String
  | .syntaxAt line fault => atLine line fault.message
  | .unknownDirective line name =>
      atLine line ("unknown directive " ++ marked name)
  | .invalidHost host => marked host ++ " is not a valid host name"
  | .duplicateHost host => "duplicate host " ++ marked host
  | .invalidPort line value =>
      atLine line ("invalid port " ++ marked value)
  | .invalidHeader line fault =>
      atLine line ("invalid header rule: " ++ fault.message)

@[simp] theorem line?_mapLine (f : Nat → Nat) (error : Error) :
    (error.mapLine f).line? = error.line?.map f := by
  cases error <;> rfl

end Error

end VirtualHosts.Site
