import VirtualHosts.Text.Cut

/-!
The arguments of the command.  Three options take a value, which follows an
equals sign or is the next argument; nothing may be given twice.
-/

namespace VirtualHosts.Command

open VirtualHosts.Text

inductive Setting where
  | config
  | sites
  | bind
  deriving DecidableEq

structure Arguments where
  config? : Option String := none
  sites? : Option String := none
  bind? : Option String := none
  check : Bool := false
  deriving DecidableEq

inductive Stop where
  | usage
  | version
  | help
  deriving DecidableEq

def Setting.ofName? : String → Option Setting
  | "config" => some .config
  | "sites" => some .sites
  | "bind" => some .bind
  | _ => none

namespace Arguments

def value? (arguments : Arguments) : Setting → Option String
  | .config => arguments.config?
  | .sites => arguments.sites?
  | .bind => arguments.bind?

def put (arguments : Arguments) (value : String) : Setting → Arguments
  | .config => { arguments with config? := some value }
  | .sites => { arguments with sites? := some value }
  | .bind => { arguments with bind? := some value }

/-- Gives an option its value.  Only the address to bind may be empty. -/
def give (arguments : Arguments) (setting : Setting) (value : String) :
    Except Stop Arguments :=
  if (arguments.value? setting).isSome then .error .usage
  else if value.isEmpty && setting ≠ .bind then .error .usage
  else .ok (arguments.put value setting)

end Arguments

inductive Shape where
  /-- Two hyphens alone: no options follow. -/
  | ending
  | long (name : String) (value? : Option String)
  | short (letter : Char)
  | plain
  deriving DecidableEq

def Shape.ofArgument (argument : String) : Shape :=
  match argument.toList with
  | ['-', '-'] => .ending
  | '-' :: '-' :: option =>
      match cutFirst? '=' option with
      | some (name, value) =>
          .long (String.ofList name) (some (String.ofList value))
      | none => .long (String.ofList option) none
  | '-' :: letter :: _ => .short letter
  | _ => .plain

structure Reading where
  given : Arguments
  /-- The option that waits for its value. -/
  pending? : Option Setting
  /-- Whether no options may follow. -/
  ended : Bool

namespace Reading

def start : Reading := ⟨{}, none, false⟩

def addCheck (reading : Reading) : Except Stop Reading :=
  if reading.given.check then .error .usage
  else .ok { reading with given := { reading.given with check := true } }

def addValue (reading : Reading) (setting : Setting) (value : String) :
    Except Stop Reading := do
  let given ← reading.given.give setting value
  return { reading with given := given, pending? := none }

/-- Takes a long option, when none waits for a value. -/
def addLong (reading : Reading) (name : String) (value? : Option String) :
    Except Stop Reading :=
  match Setting.ofName? name, value? with
  | some setting, some value => reading.addValue setting value
  | some setting, none => .ok { reading with pending? := some setting }
  | none, some _ => .error .usage
  | none, none =>
      match name with
      | "check" => reading.addCheck
      | "version" => .error .version
      | "help" => .error .help
      | _ => .error .usage

def addShort : Char → Except Stop Reading
  | 'V' => .error .version
  | 'h' => .error .help
  | _ => .error .usage

def step (reading : Reading) (argument : String) : Except Stop Reading :=
  if reading.ended then .error .usage
  else
    match Shape.ofArgument argument, reading.pending? with
    | .ending, _ => .ok { reading with ended := true }
    | .plain, some setting => reading.addValue setting argument
    | .plain, none => .error .usage
    | _, some _ => .error .usage
    | .long name value?, none => reading.addLong name value?
    | .short letter, none => addShort letter

def finish (reading : Reading) : Except Stop Arguments :=
  match reading.pending? with
  | some _ => .error .usage
  | none => .ok reading.given

end Reading

def Arguments.read (arguments : List String) : Except Stop Arguments := do
  let reading ← arguments.foldlM Reading.step Reading.start
  reading.finish

end VirtualHosts.Command
