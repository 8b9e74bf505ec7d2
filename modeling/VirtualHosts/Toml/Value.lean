/-!
What a TOML document holds.  Floats, dates and times are kept as they are
written.
-/

namespace VirtualHosts.Toml

inductive Value where
  | text (s : String)
  | integer (n : Int)
  | boolean (b : Bool)
  | float (written : String)
  | moment (written : String)
  | array (items : List Value)
  | table (entries : List (String × Value))
  deriving Inhabited

abbrev Table := List (String × Value)

/-- Takes something from the start of a text and returns the rest. -/
abbrev Reader (α : Type) := List Char → Option (α × List Char)

end VirtualHosts.Toml
