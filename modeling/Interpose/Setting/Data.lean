import Interpose.Data
import Interpose.Number.Binary64
import Interpose.Setting.Basic

namespace Interpose

-- The number that hexadecimal digits in small letters stand for.
def patternOf (digits : String) : UInt64 :=
  if digits = "nan" then Binary64.nan
  else .ofNat <| digits.toList.foldl (fun n c =>
    16 * n + if c.isDigit then c.toNat - '0'.toNat else c.toNat - 'a'.toNat + 10) 0

namespace Setting

mutual

-- Most data stands for itself.
def ofData : Data → Setting
  | .null => .text ""
  | .bool b => .boolean b
  | .int n => .integer n
  | .text s => .text s
  | .list items => .array (ofItems items)
  | .record [("$float", .text digits)] => .float (patternOf digits)
  | .record fields => .object (ofFields fields)

def ofItems : List Data → List Setting
  | [] => []
  | d :: rest => ofData d :: ofItems rest

def ofFields : List (String × Data) → List (String × Setting)
  | [] => []
  | (key, d) :: rest => (key, ofData d) :: ofFields rest

end

mutual

def toData : Setting → Data
  | text s => .record [("string", s)]
  | integer n => .record [("int", n)]
  | float bits => .record [("float", Binary64.text bits)]
  | boolean b => .record [("bool", b)]
  | array items => .record [("array", .list (itemsData items))]
  | object fields => .record [("object", .record (fieldsData fields))]

def itemsData : List Setting → List Data
  | [] => []
  | v :: rest => v.toData :: itemsData rest

def fieldsData : List (String × Setting) → List (String × Data)
  | [] => []
  | (key, v) :: rest => (key, v.toData) :: fieldsData rest

end

end Setting
end Interpose
