import VirtualHosts.Toml.Quoted

/-!
Keys.  A key is bare or quoted, and dots between keys make a path.
-/

namespace VirtualHosts.Toml

open VirtualHosts.Text

def isBareChar (c : Char) : Bool :=
  c.isAlphanum || c = '-' || c = '_'

def bareKey? (s : List Char) : Option (List Char × List Char) :=
  let key := s.takeWhile isBareChar
  if key.isEmpty then none else some (key, s.dropWhile isBareChar)

/-- One key; quoted keys have no line breaks. -/
def key? (s : List Char) : Option (List Char × List Char) :=
  match s with
  | '"' :: rest => basic? rest
  | '\'' :: rest => literal? rest
  | _ => bareKey? s

def spacedKey? : Reader String := fun s => do
  let (key, rest) ← key? (skipBlanks s)
  return (String.ofList key, skipBlanks rest)

def pathLimit : Nat := 79

structure KeyPath where
  parents : List String
  last : String
  deriving DecidableEq

def KeyPath.ofKeys? (keys : List String) : Option KeyPath :=
  match keys.getLast? with
  | none => none
  | some last =>
      if pathLimit < keys.length then none else some ⟨keys.dropLast, last⟩

def keyPath? : Reader KeyPath := fun s => do
  let (keys, rest) ← separated? spacedKey? '.' s
  let path ← KeyPath.ofKeys? keys
  return (path, rest)

end VirtualHosts.Toml
