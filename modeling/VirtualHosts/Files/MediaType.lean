import VirtualHosts.Text.Caseless

/-!
Media types by file name extension.  Case does not count.
-/

namespace VirtualHosts.Files

open VirtualHosts.Text

/-- A part of the table of all known types, for the extensions that sites
mostly serve.  Any other extension counts as unknown here, also where the whole
table has a type for it. -/
def mediaTypes : List (String × String) :=
  [("html", "text/html"), ("htm", "text/html"), ("css", "text/css"),
    ("js", "text/javascript"), ("mjs", "application/javascript"),
    ("json", "application/json"), ("txt", "text/plain"),
    ("xml", "text/xml"), ("svg", "image/svg+xml"), ("png", "image/png"),
    ("jpg", "image/jpeg"), ("jpeg", "image/jpeg"), ("gif", "image/gif"),
    ("webp", "image/webp"), ("ico", "image/x-icon"),
    ("pdf", "application/pdf"), ("zip", "application/zip"),
    ("gz", "application/gzip"), ("tar", "application/x-tar"),
    ("wasm", "application/wasm"), ("mp4", "video/mp4"),
    ("mp3", "audio/mpeg"), ("woff", "application/font-woff"),
    ("woff2", "font/woff2"), ("ttf", "font/ttf"), ("csv", "text/csv"),
    ("md", "text/markdown"), ("yaml", "text/x-yaml"),
    ("toml", "text/x-toml"), ("rs", "text/x-rust")]

def unknownMediaType : String := "application/octet-stream"

/-- What follows the last dot of a name.  A dot at the start of the name does
not begin an extension. -/
def extension? (name : List Char) : Option (List Char) :=
  match cutLast? '.' name with
  | none => none
  | some (stem, extension) =>
      if stem.isEmpty then none else some extension

def mediaType (name : String) : String :=
  match extension? name.toList with
  | none => unknownMediaType
  | some extension =>
      (mediaTypes.lookup (String.ofList (caseless extension))).getD
        unknownMediaType

end VirtualHosts.Files
