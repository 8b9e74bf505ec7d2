import VirtualHosts.Text.Cut

/-!
File paths.  A path keeps its text as written; two paths name the same place
when their components agree, and repeated slashes, dots inside and a slash at
the end make no component.
-/

namespace VirtualHosts.Files

open VirtualHosts.Text

structure Path where
  text : String
  deriving DecidableEq

inductive Component where
  | root
  | here
  | up
  | name (text : String)
  deriving DecidableEq

/-- The component that a piece after the first one makes, if any. -/
def Component.ofPiece? (piece : List Char) : Option Component :=
  if piece = [] || piece = ['.'] then none
  else if piece = ['.', '.'] then some .up
  else some (.name (String.ofList piece))

namespace Path

def isEmpty (path : Path) : Bool :=
  path.text.toList.isEmpty

def isAbsolute (path : Path) : Bool :=
  path.text.toList.head? = some '/'

def pieces (path : Path) : List (List Char) :=
  Text.pieces '/' path.text.toList

def components (path : Path) : List Component :=
  let later := path.pieces.filterMap Component.ofPiece?
  if path.isAbsolute then .root :: later
  else if path.pieces.head? = some ['.'] then .here :: later
  else later

def same (first second : Path) : Bool :=
  first.components = second.components

/-- An absolute path stands for itself; any other is below `base`. -/
def join (base relative : Path) : Path :=
  if relative.isAbsolute || base.isEmpty then relative
  else if base.text.toList.getLast? = some '/' then
    ⟨base.text ++ relative.text⟩
  else ⟨base.text ++ "/" ++ relative.text⟩

theorem same_iff {first second : Path} :
    first.same second = true ↔ first.components = second.components := by
  simp [same]

end Path

end VirtualHosts.Files
