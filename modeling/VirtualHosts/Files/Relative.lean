import VirtualHosts.Files.Serve

/-!
The path below a root that a request asks for.  Its segments are looked at one
after another, and each one that is a name is put behind the path so far.
-/

namespace VirtualHosts.Files

open VirtualHosts.Http
open VirtualHosts.Text

def Path.empty : Path := ⟨""⟩

/-- The path with one more segment, or as it is for a segment that leads
nowhere. -/
def addSegment (path : String) (relative : Path) (segment : List Char) :
    Except Refusal Path :=
  if isIdle segment then .ok relative
  else if isForbidden segment then .error (.outsideRoot path)
  else .ok (relative.join ⟨String.ofList segment⟩)

def relativePath (path : String) : Except Refusal Path :=
  match ofUtf8? (unescape (utf8 path)) with
  | none => .error (.notFound path)
  | some text => (pieces '/' text.toList).foldlM (addSegment path) .empty

/-- The names of a path, with slashes between them. -/
def Path.ofNames (names : List String) : Path :=
  ⟨String.intercalate "/" names⟩

end VirtualHosts.Files
