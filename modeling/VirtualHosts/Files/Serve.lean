import VirtualHosts.Files.Handle
import VirtualHosts.Files.MediaType
import VirtualHosts.Http.Refusal

/-!
Answers from the files below a root directory.  A path is unescaped before its
segments are looked at, and the location it leads to is compared with the
root.  A directory is answered with its index file.  A file is looked at before
it is opened, and the answer is made from what was opened.
-/

namespace VirtualHosts.Files

open VirtualHosts.Header
open VirtualHosts.Http
open VirtualHosts.Text

def indexName : String := "index.html"

/-- Whether a segment may not stand in a path at all. -/
def isForbidden (segment : List Char) : Bool :=
  segment = ['.', '.'] || segment.contains '\\' || segment.contains '\x00'

/-- Whether a segment leads nowhere. -/
def isIdle (segment : List Char) : Bool :=
  segment.isEmpty || segment = ['.']

def segments (path : String) : Except Refusal (List String) :=
  match ofUtf8? (unescape (utf8 path)) with
  | none => .error (.notFound path)
  | some text =>
      let parts := pieces '/' text.toList
      if parts.any isForbidden then .error (.outsideRoot path)
      else .ok ((parts.filter (!isIdle ·)).map String.ofList)

/-- The location to open, which is another one for a directory. -/
def entrance (tree : Tree) (location : Location) (path : String) :
    Except Refusal Location :=
  match tree.look location with
  | .error _ => .error (.notFound path)
  | .ok (.file _) => .ok location
  | .ok .directory =>
      match tree.look (location ++ [indexName]) with
      | .ok (.file _) => .ok (location ++ [indexName])
      | _ => .error (.notFound path)

/-- The location to open for the plain names below a root.  The root is
resolved first, and the names are followed from where it leads. -/
def locate (tree : Tree) (root : Path) (names : List String)
    (path : String) : Except Refusal Location :=
  match tree.resolve root with
  | .error _ => .error (.notFound path)
  | .ok base =>
      match tree.below base names with
      | .error _ => .error (.notFound path)
      | .ok location =>
          if !base.isPrefixOf location then .error (.outsideRoot path)
          else entrance tree location path

/-- A file that has gone since it was looked at is not found; any other fault
is one of the system. -/
def openRefusal (path : String) (fault : OpenFault) : Refusal :=
  if fault = .path .missing then .notFound path
  else .unreadable fault.message

/-- What is answered with.  The media type goes by the last name of the
location that was opened. -/
structure Opened where
  location : Location
  handle : Handle
  deriving DecidableEq

def openNamed (tree : Tree) (root : Path) (names : List String)
    (path : String) : Except Refusal Opened := do
  let location ← locate tree root names path
  let handle ← (tree.openAt location).mapError (openRefusal path)
  return ⟨location, handle⟩

/-- What is opened for a request. -/
def openFor (tree : Tree) (root : Path) (method path : String) :
    Except Refusal Opened := do
  if method ≠ "GET" && method ≠ "HEAD" then
    .error (.methodNotAllowed method)
  else do
    let names ← segments path
    openNamed tree root names path

namespace Opened

def mediaType (opened : Opened) : String :=
  Files.mediaType (opened.location.getLast?.getD "")

def response (opened : Opened) (withBody : Bool) : Response :=
  let content := opened.handle.content
  ⟨200,
    (Fields.empty.set .contentType (.literal opened.mediaType)).set
      .contentLength (.literal (decimal content.length)),
    if withBody then content else []⟩

end Opened

def serve (tree : Tree) (root : Path) (method path : String) :
    Except Refusal Response := do
  let opened ← openFor tree root method path
  return opened.response (method = "GET")

end VirtualHosts.Files
