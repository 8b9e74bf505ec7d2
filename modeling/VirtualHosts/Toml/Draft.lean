import VirtualHosts.Toml.Key

/-!
Tables while a document is read.  What made a table decides who may add to it:
a table with a header takes entries below its own header only, one that a
header passed through may get a header of its own, and one that dotted keys
made grows by dotted keys alone.
-/

namespace VirtualHosts.Toml

inductive Origin where
  | header
  | passing
  | dotted
  deriving DecidableEq

inductive Draft where
  | value (value : Value)
  | table (origin : Origin) (entries : List (String × Draft))
  /-- The tables that one header in double brackets made, the last one
  apart. -/
  | tables (earlier : List (List (String × Draft)))
      (last : List (String × Draft))

abbrev Drafts := List (String × Draft)

namespace Draft

mutual

def finish : Draft → Value
  | .value leaf => leaf
  | .table _ entries => .table (finishEntries entries)
  | .tables earlier last =>
      .array (finishTables earlier ++ [.table (finishEntries last)])

def finishEntries : List (String × Draft) → Table
  | [] => []
  | (key, draft) :: rest => (key, draft.finish) :: finishEntries rest

def finishTables : List (List (String × Draft)) → List Value
  | [] => []
  | entries :: rest => .table (finishEntries entries) :: finishTables rest

end

end Draft

namespace Drafts

/-- Puts a draft under a key, in the place of the one there. -/
def put (key : String) (draft : Draft) : Drafts → Drafts
  | [] => [(key, draft)]
  | (other, before) :: rest =>
      if other = key then (key, draft) :: rest
      else (other, before) :: put key draft rest

/-- Changes the table that a path leads to; tables that are not there are
made on the way.  Dotted keys do not enter a table that has a header. -/
def descend? (dotted : Bool)
    (change : Origin → Drafts → Option Drafts) :
    List String → Origin → Drafts → Option Drafts
  | [], origin, entries => change origin entries
  | key :: path, _, entries =>
      match entries.lookup key with
      | none => do
          let origin := if dotted then Origin.dotted else .passing
          let inner ← descend? dotted change path origin []
          return put key (.table origin inner) entries
      | some (.value _) => none
      | some (.table origin inner) =>
          if dotted && origin = .header then none
          else do
            let inner ← descend? dotted change path origin inner
            return put key (.table origin inner) entries
      | some (.tables earlier last) => do
          let last ← descend? dotted change path .header last
          return put key (.tables earlier last) entries

/-- Adds a value under a new key.  The table must be made by dotted keys
exactly if the key has others before it. -/
def addValue? (path : KeyPath) (value : Value) (entries : Drafts) :
    Option Drafts :=
  let add (origin : Origin) (entries : Drafts) : Option Drafts :=
    if decide (origin = .dotted) = path.parents.isEmpty then none
    else if (entries.lookup path.last).isSome then none
    else some (put path.last (.value value) entries)
  descend? true add path.parents .header entries

def addValues? (pairs : List (KeyPath × Value)) (entries : Drafts) :
    Option Drafts :=
  pairs.foldlM (fun entries (path, value) => addValue? path value entries)
    entries

/-- Adds the entries below a header in single brackets. -/
def addTable? (path : KeyPath) (pairs : List (KeyPath × Value))
    (entries : Drafts) : Option Drafts :=
  let add (_ : Origin) (entries : Drafts) : Option Drafts :=
    match entries.lookup path.last with
    | none => do
        let inner ← addValues? pairs []
        return put path.last (.table .header inner) entries
    | some (.table .passing inner) => do
        let inner ← addValues? pairs inner
        return put path.last (.table .header inner) entries
    | some _ => none
  descend? false add path.parents .header entries

/-- Adds one more table below a header in double brackets. -/
def addToTables? (path : KeyPath) (pairs : List (KeyPath × Value))
    (entries : Drafts) : Option Drafts :=
  let add (_ : Origin) (entries : Drafts) : Option Drafts := do
    let inner ← addValues? pairs []
    match entries.lookup path.last with
    | none => return put path.last (.tables [] inner) entries
    | some (.tables earlier last) =>
        return put path.last (.tables (earlier ++ [last]) inner) entries
    | some _ => none
  descend? false add path.parents .header entries

end Drafts

end VirtualHosts.Toml
