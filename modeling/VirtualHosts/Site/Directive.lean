import VirtualHosts.Site.Token

/-!
Directives: a name, the arguments that follow it on its line, and perhaps a
block of further directives.  Tokens are taken one at a time; what is open is
kept in the reading state, so nothing is read twice.
-/

namespace VirtualHosts.Site

inductive Directive where
  | mk (name : Token) (arguments : List Token)
      (block? : Option (List Directive))

namespace Directive

def name : Directive → Token
  | mk name _ _ => name

def arguments : Directive → List Token
  | mk _ arguments _ => arguments

def block? : Directive → Option (List Directive)
  | mk _ _ block? => block?

@[simp] theorem name_mk (name : Token) (arguments : List Token)
    (block? : Option (List Directive)) :
    (mk name arguments block?).name = name := rfl

@[simp] theorem arguments_mk (name : Token) (arguments : List Token)
    (block? : Option (List Directive)) :
    (mk name arguments block?).arguments = arguments := rfl

@[simp] theorem block?_mk (name : Token) (arguments : List Token)
    (block? : Option (List Directive)) :
    (mk name arguments block?).block? = block? := rfl

end Directive

structure OpenLine where
  name : Token
  arguments : List Token
  endLine : Nat

/-- A block that is not closed, with the directives that came before it. -/
structure OpenBlock where
  name : Token
  arguments : List Token
  before : List Directive

/-- What has been read: the open blocks, innermost first, the directives that
are complete in the innermost one, and the line being read, if any. -/
structure Reading where
  blocks : List OpenBlock
  done : List Directive
  line? : Option OpenLine

namespace Reading

def start : Reading := ⟨[], [], none⟩

def endLine (reading : Reading) : Reading :=
  match reading.line? with
  | none => reading
  | some line =>
      { reading with
        done := reading.done ++ [.mk line.name line.arguments none]
        line? := none }

def openBlock (reading : Reading) (name : Token) (arguments : List Token) :
    Reading :=
  ⟨⟨name, arguments, reading.done⟩ :: reading.blocks, [], none⟩

def begin (reading : Reading) (token : Token) : Except Error Reading :=
  if token.is "\x7d" then
    match reading.blocks with
    | [] => .error (.syntaxAt token.line .unexpectedClose)
    | block :: outer =>
        .ok ⟨outer, block.before ++
          [.mk block.name block.arguments (some reading.done)], none⟩
  else if token.is "\x7b" then .ok (reading.openBlock token [])
  else .ok { reading with line? := some ⟨token, [], token.endLine⟩ }

/-- A token goes to the current line if it starts where the line's last token
ended; a closing brace never does. -/
def step (reading : Reading) (token : Token) : Except Error Reading :=
  match reading.line? with
  | none => reading.begin token
  | some line =>
      if token.line ≠ line.endLine || token.is "\x7d" then
        reading.endLine.begin token
      else if token.is "\x7b" then
        .ok (reading.openBlock line.name line.arguments)
      else
        .ok { reading with
          line? := some
            ⟨line.name, line.arguments ++ [token], token.endLine⟩ }

def finish (reading : Reading) : Except Error (List Directive) :=
  match reading.blocks with
  | [] => .ok reading.endLine.done
  | block :: _ => .error (.syntaxAt block.name.line .blockNeverClosed)

end Reading

def directives (tokens : List Token) : Except Error (List Directive) := do
  let reading ← tokens.foldlM Reading.step Reading.start
  reading.finish

end VirtualHosts.Site
