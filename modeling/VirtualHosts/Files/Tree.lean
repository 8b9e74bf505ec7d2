import VirtualHosts.Files.Path

/-!
File trees with directories, regular files and symbolic links.  An entry is
found by its location, the list of names that leads to it from the top.
Following a path resolves the links on the way; a link that leads nowhere, and
a chain that is too long, end the search.  What is found may still be kept from
being opened.
-/

namespace VirtualHosts.Files

/-- The names that lead from the top to an entry. -/
abbrev Location := List String

inductive Entry where
  | file (content : List UInt8)
  | directory
  | link (target : Path)
  deriving DecidableEq

inductive PathFault where
  | missing
  | notDirectory
  | tooManyLinks
  | tooLong
  | embeddedNul
  deriving DecidableEq

inductive OpenFault where
  | path (fault : PathFault)
  /-- The system does not open what is there, or does not say how long it
  is. -/
  | system (reason : String)
  deriving DecidableEq

structure Tree where
  /-- What can be found.  A directory that may not be searched has nothing
  below it. -/
  entries : List (Location × Entry)
  /-- Where relative paths start. -/
  current : Location
  /-- The locations that cannot be opened although they are there. -/
  faults : List (Location × OpenFault) := []

namespace Tree

def linkLimit : Nat := 40

/-- The longest name of an entry, in bytes. -/
def nameLimit : Nat := 255

/-- The longest path that is opened, in bytes. -/
def pathLimit : Nat := 4095

def entry? (tree : Tree) (location : Location) : Option Entry :=
  if location = [] then some .directory
  else (tree.entries.find? fun entry => entry.1 = location).map (·.2)

def isDirectory (tree : Tree) (location : Location) : Bool :=
  tree.entry? location = some .directory

/-- The location that the pieces of a path lead to from `start`.  Only the
last piece may name a regular file. -/
def follow (tree : Tree) (links : Nat) (start : Location)
    (path : List String) : Except PathFault Location :=
  match path with
  | [] => .ok start
  | piece :: rest =>
      if !tree.isDirectory start then .error .notDirectory
      else if piece = "" || piece = "." then tree.follow links start rest
      else if piece = ".." then tree.follow links start.dropLast rest
      else if nameLimit < piece.utf8ByteSize then .error .tooLong
      else
        let next := start ++ [piece]
        match tree.entry? next with
        | none => .error .missing
        | some (.file _) =>
            if rest = [] then .ok next else .error .notDirectory
        | some .directory => tree.follow links next rest
        | some (.link target) =>
            match links with
            | 0 => .error .tooManyLinks
            | links + 1 =>
                let start := if target.isAbsolute then [] else start
                tree.follow links start
                  (target.pieces.map String.ofList ++ rest)
termination_by (links, path.length)

/-- The location that a path leads to, however long its text is.  An empty
path leads nowhere, and a relative one goes through the names of the current
directory first. -/
def resolve (tree : Tree) (path : Path) : Except PathFault Location :=
  let front := if path.isAbsolute then [] else tree.current
  if path.isEmpty then .error .missing
  else if path.text.toList.contains '\x00' then .error .embeddedNul
  else tree.follow linkLimit [] (front ++ path.pieces.map String.ofList)

/-- The location that names lead to from a directory.  The links on the way to
the directory itself do not count. -/
def below (tree : Tree) (directory : Location) (names : List String) :
    Except PathFault Location :=
  if tree.isDirectory directory then tree.follow linkLimit directory names
  else .error .notDirectory

def fileAt? (tree : Tree) (location : Location) : Option (List UInt8) :=
  match tree.entry? location with
  | some (.file content) => some content
  | _ => none

def fault? (tree : Tree) (location : Location) : Option OpenFault :=
  tree.faults.lookup location

end Tree

end VirtualHosts.Files
