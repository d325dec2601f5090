/-!
# Values of a TOML document

Dates and floating-point numbers are kept as they are written, since nothing
is computed from them.
-/

namespace Pinhole.Toml

inductive Value where
  | string (text : String)
  | integer (value : Int)
  | float (text : String)
  | boolean (value : Bool)
  | datetime (text : String)
  | array (items : List Value)
  | table (entries : List (String × Value))

end Pinhole.Toml
