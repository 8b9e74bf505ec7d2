import VirtualHosts.Site.Address
import VirtualHosts.Site.Options

/-!
Sites: the hosts that a block of a site file names, what answers them, and the
rules for their responses.  A site file is a list of sites, perhaps after one
block of global options.
-/

namespace VirtualHosts

structure Site where
  hosts : List String
  target : Site.Target
  rules : List Header.Rule
  deriving DecidableEq

structure SiteFile where
  sites : List Site
  deriving DecidableEq

namespace Site

open VirtualHosts.Header

def addHost (line : Nat) (hosts : List String) (address : List Char) :
    Except Error (List String) := do
  let host ← siteHost line address
  if host ∈ hosts then .error (.duplicateHost host)
  else .ok (hosts ++ [host])

def addHosts (hosts : List String) (token : Token) :
    Except Error (List String) :=
  (addressPieces token).foldlM (addHost token.line) hosts

def siteHosts (directive : Directive) : Except Error (List String) := do
  let hosts ←
    (directive.name :: directive.arguments).foldlM addHosts []
  if hosts.isEmpty then
    .error (.syntaxAt directive.name.line .noAddress)
  else .ok hosts

def ruleOf (field : Token) (values : List Token) : Except Error Rule :=
  let read (value? : Option String) : Except Error Rule :=
    match Rule.read field.text value? with
    | .ok rule => .ok rule
    | .error fault => .error (.invalidHeader field.line (.rule fault))
  match values with
  | [] => read none
  | [value] => read (some value.text)
  | _ => .error (.invalidHeader field.line (.manyValues field.text))

def blockRule (entry : Directive) : Except Error Rule :=
  match entry.block? with
  | some _ => .error (.syntaxAt entry.name.line .blockInRule)
  | none => ruleOf entry.name entry.arguments

/-- The rules of a header directive: one on its line, or one per line of its
block. -/
def headerRules (directive : Directive) : Except Error (List Rule) :=
  match directive.block?, directive.arguments with
  | some block, [] => block.mapM blockRule
  | none, field :: values => do
      let rule ← ruleOf field values
      return [rule]
  | none, [] => .error (.syntaxAt directive.name.line .noRule)
  | some _, _ :: _ =>
      .error (.syntaxAt directive.name.line .headerMatcher)

/-- What the directives of a site block have said so far. -/
structure Draft where
  backend? : Option Backend
  root? : Option Files.Path
  fileServer : Bool
  rules : List Rule

namespace Draft

def empty : Draft := ⟨none, none, false, []⟩

def addBackend (draft : Draft) (entry : Directive) : Except Error Draft := do
  noBlock entry
  if draft.backend?.isSome then
    .error (.syntaxAt entry.name.line .secondBackend)
  else
    match entry.arguments with
    | [] => .error (.syntaxAt entry.name.line .noBackend)
    | [address] => do
        let backend ← backendOf address.line address.text
        return { draft with backend? := some backend }
    | _ => .error (.syntaxAt entry.name.line .manyBackends)

def addRoot (draft : Draft) (entry : Directive) : Except Error Draft := do
  noBlock entry
  if draft.root?.isSome then
    .error (.syntaxAt entry.name.line .secondRoot)
  else
    match entry.arguments with
    | [path] => .ok { draft with root? := some ⟨path.text⟩ }
    | [matcher, path] =>
        if matcher.is "*" then .ok { draft with root? := some ⟨path.text⟩ }
        else .error (.syntaxAt entry.name.line .rootUsage)
    | _ => .error (.syntaxAt entry.name.line .rootUsage)

def addFileServer (draft : Draft) (entry : Directive) :
    Except Error Draft := do
  noBlock entry
  match entry.arguments with
  | [] => .ok { draft with fileServer := true }
  | argument :: _ =>
      if argument.text = "browse" then
        .error (.syntaxAt entry.name.line .browsing)
      else
        .error (.syntaxAt entry.name.line
          (.fileServerArgument argument.text))

def addRules (draft : Draft) (entry : Directive) : Except Error Draft := do
  let rules ← headerRules entry
  return { draft with rules := draft.rules ++ rules }

def entry (draft : Draft) (directive : Directive) : Except Error Draft :=
  match directive.name.text with
  | "reverse_proxy" => draft.addBackend directive
  | "root" => draft.addRoot directive
  | "file_server" => draft.addFileServer directive
  | "header" => draft.addRules directive
  | name => .error (.unknownDirective directive.name.line name)

/-- A site has a backend, or a root and a file server, and not both. -/
def target (draft : Draft) (line : Nat) : Except Error Target :=
  match draft.backend?, draft.root?, draft.fileServer with
  | some backend, none, false => .ok (.backend backend)
  | none, some root, true => .ok (.files root)
  | none, some _, false => .error (.syntaxAt line .rootWithoutServer)
  | none, none, true => .error (.syntaxAt line .serverWithoutRoot)
  | none, none, false => .error (.syntaxAt line .noTarget)
  | some _, _, _ => .error (.syntaxAt line .twoTargets)

end Draft

def ofDirective (directive : Directive) : Except Error Site := do
  let line := directive.name.line
  let hosts ← siteHosts directive
  match directive.block? with
  | none => .error (.syntaxAt line .siteWithoutBlock)
  | some block => do
      let draft ← block.foldlM Draft.entry .empty
      let target ← draft.target line
      return ⟨hosts, target, draft.rules⟩

/-- The sites of the directives; a block without a name holds options and
stands at the start or nowhere. -/
def sitesOf (atStart : Bool) :
    List Directive → Except Error (List Site)
  | [] => .ok []
  | directive :: rest =>
      if directive.name.is "\x7b" then
        if atStart then do
          checkOptions directive
          sitesOf false rest
        else
          .error (.syntaxAt directive.name.line .optionsNotFirst)
      else do
        let site ← ofDirective directive
        let sites ← sitesOf false rest
        return site :: sites

end Site

namespace SiteFile

def ofDirectives (directives : List Site.Directive) :
    Except Site.Error SiteFile := do
  let sites ← Site.sitesOf true directives
  return ⟨sites⟩

def read (s : String) : Except Site.Error SiteFile := do
  let tokens ← Site.tokens s
  let directives ← Site.directives tokens
  ofDirectives directives

end SiteFile

end VirtualHosts
