import VirtualHosts.Files.Handle
import VirtualHosts.Text.Utf8

/-!
Reading a file as text, and the ways in which that fails.
-/

namespace VirtualHosts.Files

inductive ReadFault where
  | unopened (fault : OpenFault)
  | directory
  | notText
  deriving DecidableEq

def ReadFault.message : ReadFault → String
  | .unopened fault => fault.message
  | .directory => "Is a directory (os error 21)"
  | .notText => "stream did not contain valid UTF-8"

def textOf (content : List UInt8) : Except ReadFault String :=
  match Text.ofUtf8? content with
  | some text => .ok text
  | none => .error .notText

/-- The location of what a path opens.  A path with a text that is too long
opens nothing. -/
def Tree.opened (tree : Tree) (path : Path) : Except PathFault Location :=
  match tree.resolve path with
  | .error .embeddedNul => .error .embeddedNul
  | found =>
      if Tree.pathLimit < path.text.utf8ByteSize then .error .tooLong
      else found

def Tree.readText (tree : Tree) (path : Path) : Except ReadFault String := do
  let location ←
    (tree.opened path).mapError fun fault => .unopened (.path fault)
  match ← (tree.handleOf location).mapError .unopened with
  | .file content => textOf content
  | .directory => .error .directory

end VirtualHosts.Files
