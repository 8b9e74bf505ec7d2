import VirtualHosts.Header.Fields

/-!
Rules that change the header fields of a response.  Rules are applied in
order, so the last one that touches a name decides what the client sees.
-/

namespace VirtualHosts.Header

open VirtualHosts.Text

inductive Rule where
  /-- Replaces every value of the name. -/
  | set (name : Name) (value : Value)
  /-- Keeps the values of the name and adds one. -/
  | add (name : Name) (value : Value)
  /-- Removes every value of the name. -/
  | delete (name : Name)
  deriving DecidableEq

inductive RuleFault where
  | name (text : String)
  | value (name : String)
  | missingValue (name : String)
  | unexpectedValue (name : String)
  deriving DecidableEq

def RuleFault.message : RuleFault → String
  | .name text => "invalid header name `" ++ text ++ "`"
  | .value header => "invalid value for header `" ++ header ++ "`"
  | .missingValue header => "header `" ++ header ++ "` needs a value"
  | .unexpectedValue header =>
      "deleting header `" ++ header ++ "` takes no value"

namespace Rule

def readName (text : String) : Except RuleFault Name :=
  match Name.ofText? text with
  | some name => .ok name
  | none => .error (.name text)

def readValue (name text : String) : Except RuleFault Value :=
  match Value.ofText? text with
  | some value => .ok value
  | none => .error (.value name)

def readSet (name value : String) : Except RuleFault Rule := do
  let header ← readName name
  let value ← readValue name value
  return .set header value

def readAdd (name value : String) : Except RuleFault Rule := do
  let header ← readName name
  let value ← readValue name value
  return .add header value

def readDelete (name : String) : Except RuleFault Rule := do
  let header ← readName name
  return .delete header

/-- How the first character of a written field says what the rule does. -/
inductive Kind where
  | set
  | add
  | delete
  deriving DecidableEq

def splitField : List Char → Kind × List Char
  | '-' :: name => (.delete, name)
  | '+' :: name => (.add, name)
  | '>' :: name => (.set, name)
  | name => (.set, name)

/-- A minus sign deletes and takes no value.  A plus sign adds; a greater-than
sign sets, as does a bare name. -/
def read (field : String) (value? : Option String) :
    Except RuleFault Rule :=
  let (kind, rest) := splitField field.toList
  let name := String.ofList rest
  match kind, value? with
  | .delete, none => readDelete name
  | .delete, some _ => .error (.unexpectedValue name)
  | .add, none => .error (.missingValue name)
  | .set, none => .error (.missingValue name)
  | .add, some value => readAdd name value
  | .set, some value => readSet name value

def apply (fields : Fields) : Rule → Fields
  | .set name value => fields.set name value
  | .add name value => fields.add name value
  | .delete name => fields.erase name

def applyAll (rules : List Rule) (fields : Fields) : Fields :=
  rules.foldl apply fields

@[simp] theorem applyAll_nil (fields : Fields) :
    applyAll [] fields = fields := rfl

@[simp] theorem applyAll_cons (rule : Rule) (rules : List Rule)
    (fields : Fields) :
    applyAll (rule :: rules) fields = applyAll rules (rule.apply fields) :=
  rfl

theorem applyAll_append (first second : List Rule) (fields : Fields) :
    applyAll (first ++ second) fields =
      applyAll second (applyAll first fields) := by
  simp [applyAll]

end Rule

end VirtualHosts.Header
