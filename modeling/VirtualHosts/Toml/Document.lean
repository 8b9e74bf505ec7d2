import VirtualHosts.Toml.Expression

/-!
Documents.  A document is read line by line into sections, each with a header
but the first; then the sections are put together into one table.
-/

namespace VirtualHosts.Toml

inductive Header where
  | single (path : KeyPath)
  | double (path : KeyPath)

inductive Line where
  | pair (path : KeyPath) (value : Value)
  | header (header : Header)

def endedBy? {α : Type} (found : α) (s : List Char) :
    Option (α × List Char) :=
  (endOfLine? s).map (found, ·)

def headerLine? : Reader Line
  | '[' :: '[' :: rest => do
      let (path, rest) ← keyPath? rest
      match rest with
      | ']' :: ']' :: rest => endedBy? (.header (.double path)) rest
      | _ => none
  | '[' :: rest => do
      let (path, rest) ← keyPath? rest
      match rest with
      | ']' :: rest => endedBy? (.header (.single path)) rest
      | _ => none
  | _ => none

def pairLine? : Reader Line := fun s => do
  let ((path, value), rest) ← pair? (value? depthLimit) s
  endedBy? (.pair path value) rest

/-- The line at the start of a text, without blanks before it.  A line may
hold nothing. -/
def line? : Reader (Option Line) := fun s =>
  match s with
  | '[' :: _ => (headerLine? s).map fun (line, rest) => (some line, rest)
  | _ =>
      match endOfLine? s with
      | some rest => some (none, rest)
      | none => (pairLine? s).map fun (line, rest) => (some line, rest)

def lines? (s : List Char) : Option (List Line) :=
  if s.isEmpty then some []
  else
    match line? (skipBlanks s) with
    | none => none
    | some (line?, rest) =>
        if _shorter : rest.length < s.length then
          (lines? rest).map (line?.toList ++ ·)
        else none
termination_by s.length

/-- A header and the pairs below it; the first section has no header. -/
structure Section where
  header? : Option Header
  pairs : List (KeyPath × Value)

/-- The sections of a list of lines: the pairs before the first header, and
the sections that headers begin. -/
def split : List Line → List (KeyPath × Value) × List Section
  | [] => ([], [])
  | .pair path value :: rest =>
      let (pairs, sections) := split rest
      ((path, value) :: pairs, sections)
  | .header header :: rest =>
      let (pairs, sections) := split rest
      ([], ⟨some header, pairs⟩ :: sections)

def sections (lines : List Line) : List Section :=
  let (pairs, sections) := split lines
  ⟨none, pairs⟩ :: sections

def Section.addTo? (part : Section) (entries : Drafts) : Option Drafts :=
  match part.header? with
  | none => entries.addValues? part.pairs
  | some (.single path) => entries.addTable? path part.pairs
  | some (.double path) => entries.addToTables? path part.pairs

/-- A byte order mark may stand before everything else. -/
def withoutMark (s : List Char) : List Char :=
  match s with
  | '\uFEFF' :: rest => rest
  | _ => s

def Table.read? (s : String) : Option Table := do
  let lines ← lines? (withoutMark s.toList)
  let entries ←
    (sections lines).foldlM (fun entries part => part.addTo? entries)
      ([] : Drafts)
  return Draft.finishEntries entries

end VirtualHosts.Toml
