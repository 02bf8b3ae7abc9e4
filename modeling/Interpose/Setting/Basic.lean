import Interpose.Text.Integer
import Interpose.Text.LetterCase

namespace Interpose

-- Texts also pass for integers and truth values if they read as such.
inductive Setting where
  | text (s : String)
  | integer (n : Int)
  -- The bit pattern of a floating-point number.
  | float (bits : UInt64)
  | boolean (b : Bool)
  | array (items : List Setting)
  | object (fields : List (String × Setting))
  deriving Inhabited

namespace Setting

def asText? : Setting → Option String
  | text s => some s
  | _ => none

def asInteger? : Setting → Option Int
  | integer n => some n
  | text s => Text.integer? 64 (Text.trim s)
  | _ => none

def truthOf? (s : String) : Option Bool :=
  if ["true", "yes", "1"].contains s then some true
  else if ["false", "no", "0"].contains s then some false
  else none

def asBoolean? : Setting → Option Bool
  | boolean b => some b
  | text s => truthOf? (Text.lower (Text.trim s))
  | _ => none

def positionOf? (s : String) : Option Bool :=
  if ["ON", "ENABLED", "ENABLE"].contains s then some true
  else if ["OFF", "DISABLED", "DISABLE"].contains s then some false
  else none

-- A truth value, or a text that names the position of a switch.
def asSwitch? (v : Setting) : Option Bool :=
  v.asBoolean?.or (v.asText?.bind fun s => positionOf? (Text.upper (Text.trim s)))

end Setting
end Interpose
