/-!
# TOML values

The values of a TOML document.  A table is a list of entries with distinct
keys, in the order in which they were defined.  Floating-point numbers and
dates are kept as they were written, since nothing here computes with them.
-/

namespace ReleasePlanner.Toml

/-- A TOML value. -/
inductive Value where
  | string (text : String)
  | integer (n : Int)
  | float (text : String)
  | boolean (b : Bool)
  | datetime (text : String)
  | array (items : List Value)
  | table (entries : List (String × Value))

/-- The entries of a table. -/
abbrev Entries := List (String × Value)

/-- The value of a key. -/
def Entries.get? (es : Entries) (key : String) : Option Value :=
  (es.find? fun e => e.1 == key).map Prod.snd

end ReleasePlanner.Toml
