import VirtualHosts.Site.Directive

/-!
The global options block.  It changes nothing: it is accepted when it asks for
what is served anyway, plain HTTP/1.1 without administration.
-/

namespace VirtualHosts.Site

def noBlock (directive : Directive) : Except Error Unit :=
  match directive.block? with
  | none => .ok ()
  | some _ =>
      .error (.syntaxAt directive.name.line
        (.takesNoBlock directive.name.text))

def checkProtocol (argument : Token) : Except Error Unit :=
  if argument.text = "h1" then .ok ()
  else .error (.syntaxAt argument.line (.unsupportedProtocol argument.text))

def checkProtocols (entry : Directive) : Except Error Unit := do
  noBlock entry
  if entry.arguments.isEmpty then
    .error (.syntaxAt entry.name.line .noProtocol)
  else entry.arguments.forM checkProtocol

def checkServersEntry (entry : Directive) : Except Error Unit :=
  if entry.name.text = "protocols" then checkProtocols entry
  else .error (.unknownDirective entry.name.line entry.name.text)

def checkServers (entry : Directive) : Except Error Unit :=
  if entry.arguments.isEmpty then
    match entry.block? with
    | none => .error (.syntaxAt entry.name.line .serversWithoutBlock)
    | some block => block.forM checkServersEntry
  else .error (.syntaxAt entry.name.line .listenerOptions)

def checkOff (entry : Directive) : Except Error Unit := do
  noBlock entry
  match entry.arguments with
  | [value] =>
      if value.text = "off" then .ok ()
      else .error (.syntaxAt entry.name.line (.onlyOff entry.name.text))
  | _ => .error (.syntaxAt entry.name.line (.onlyOff entry.name.text))

def checkOption (entry : Directive) : Except Error Unit :=
  match entry.name.text with
  | "protocols" => checkProtocols entry
  | "servers" => checkServers entry
  | "admin" => checkOff entry
  | "auto_https" => checkOff entry
  | name => .error (.unknownDirective entry.name.line name)

def checkOptions (directive : Directive) : Except Error Unit :=
  (directive.block?.getD []).forM checkOption

end VirtualHosts.Site
