import Interpose.Toml.DateTime

namespace Interpose.Toml

inductive Value where
  | text (s : String)
  | integer (n : Int)
  -- The bit pattern of a floating-point number.
  | float (bits : UInt64)
  | boolean (b : Bool)
  | moment (d : DateTime)
  | array (items : List Value)
  | table (entries : List (String × Value))
  deriving Repr

namespace Value

def get? (v : Value) (key : String) : Option Value :=
  match v with
  | table entries => entries.lookup key
  | _ => none

end Value
end Interpose.Toml
