import VirtualHosts.Files.Tree

/-!
Looking at a location and opening it.  Both go through its names from the top,
and what is there when it is looked at may fail to open all the same.
-/

namespace VirtualHosts.Files

def PathFault.message : PathFault → String
  | .missing => "No such file or directory (os error 2)"
  | .notDirectory => "Not a directory (os error 20)"
  | .tooManyLinks => "Too many levels of symbolic links (os error 40)"
  | .tooLong => "File name too long (os error 36)"
  | .embeddedNul => "file name contained an unexpected NUL byte"

def OpenFault.message : OpenFault → String
  | .path fault => fault.message
  | .system reason => reason

/-- What a location is opened as. -/
inductive Handle where
  | file (content : List UInt8)
  | directory
  deriving DecidableEq

/-- What can be sent of it.  A directory has no bytes to send. -/
def Handle.content : Handle → List UInt8
  | .file content => content
  | .directory => []

/-- The absolute path that an entry is opened by. -/
def Location.text (location : Location) : String :=
  String.join (location.map fun name => "/" ++ name)

namespace Tree

/-- What a search that ends at a location has found. -/
def endOf (tree : Tree) (location : Location) : Handle :=
  match tree.fileAt? location with
  | some content => .file content
  | none => .directory

def reach (tree : Tree) (location : Location) : Except PathFault Location :=
  if pathLimit < location.text.utf8ByteSize then .error .tooLong
  else tree.follow linkLimit [] location

def look (tree : Tree) (location : Location) : Except PathFault Handle :=
  (tree.reach location).map tree.endOf

/-- The handle of a location where a search has ended. -/
def handleOf (tree : Tree) (location : Location) : Except OpenFault Handle :=
  match tree.fault? location with
  | some fault => .error fault
  | none => .ok (tree.endOf location)

def openAt (tree : Tree) (location : Location) : Except OpenFault Handle := do
  let finish ← (tree.reach location).mapError .path
  tree.handleOf finish

end Tree

end VirtualHosts.Files
