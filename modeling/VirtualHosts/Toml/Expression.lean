import VirtualHosts.Toml.Draft
import VirtualHosts.Toml.Moment

/-!
Values as they stand after an equals sign.  Arrays may span lines and end with
a comma; tables in braces may not.
-/

namespace VirtualHosts.Toml

/-- A value that holds no others. -/
def scalar? : Reader Value := fun s =>
  match s with
  | 't' :: 'r' :: 'u' :: 'e' :: rest => some (.boolean true, rest)
  | 'f' :: 'a' :: 'l' :: 's' :: 'e' :: rest => some (.boolean false, rest)
  | _ =>
      match quoted? s with
      | some (text, rest) => some (.text (String.ofList text), rest)
      | none =>
          match moment? s with
          | some found => some found
          | none => number? s

def items? (value? : Reader Value) (s : List Char) :
    Option (List Value × List Char) :=
  match skipLayout s with
  | ']' :: rest => some ([], rest)
  | start =>
      match value? start with
      | none => none
      | some (first, rest) =>
          match skipLayout rest with
          | ']' :: rest => some ([first], rest)
          | ',' :: rest =>
              if _shorter : rest.length < s.length then
                (items? value? rest).map fun (items, rest) =>
                  (first :: items, rest)
              else none
          | _ => none
termination_by s.length

def spacedValue? (value? : Reader Value) : Reader Value := fun s => do
  let (value, rest) ← value? (skipBlanks s)
  return (value, skipBlanks rest)

def pair? (value? : Reader Value) : Reader (KeyPath × Value) := fun s => do
  let (path, rest) ← keyPath? s
  match rest with
  | '=' :: rest => do
      let (value, rest) ← spacedValue? value? rest
      return ((path, value), rest)
  | _ => none

def inlineTable? (value? : Reader Value) : Reader Value := fun s =>
  match skipBlanks s with
  | '}' :: rest => some (.table [], rest)
  | start => do
      let (pairs, rest) ← separated? (pair? value?) ',' start
      match rest with
      | '}' :: rest => do
          let entries ← Drafts.addValues? pairs []
          return (.table (Draft.finishEntries entries), rest)
      | _ => none

/-- A value in which so many arrays and tables may stand inside one
another. -/
def value? : Nat → Reader Value
  | 0, s => scalar? s
  | depth + 1, s =>
      match s with
      | '[' :: rest =>
          (items? (value? depth) rest).map fun (items, rest) =>
            (.array items, rest)
      | '{' :: rest => inlineTable? (value? depth) rest
      | _ => scalar? s

def depthLimit : Nat := 79

end VirtualHosts.Toml
