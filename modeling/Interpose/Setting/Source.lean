import Interpose.Setting.Basic
import Interpose.Table
import Interpose.Toml.Document
import Interpose.Toml.Moment

namespace Interpose

-- Of several sources the one of the highest priority counts.
structure SettingSource where
  name : String
  priority : Int
  keys : List String
  get? : String → Option Setting

abbrev Settings := List (String × Setting)

namespace SettingSource

def ofSettings (name : String) (priority : Int) (settings : Settings) : SettingSource where
  name := name
  priority := priority
  keys := settings.map (·.1)
  get? key := settings.lookup key

def setPriority (s : SettingSource) (priority : Int) : SettingSource := { s with priority }

mutual

def settingOf : Toml.Value → Setting
  | .text s => .text s
  | .integer n => .integer n
  | .float bits => .float bits
  | .boolean b => .boolean b
  | .moment d => .text d.text
  | .array items => .array (settingsOf items)
  | .table entries => .object (fieldsOf entries)

def settingsOf : List Toml.Value → List Setting
  | [] => []
  | v :: rest => settingOf v :: settingsOf rest

def fieldsOf : List (String × Toml.Value) → List (String × Setting)
  | [] => []
  | (key, v) :: rest => (key, settingOf v) :: fieldsOf rest

end

-- The key of an entry in a table of the given key.
def keyBelow (path key : String) : String := if path.isEmpty then key else path ++ "." ++ key

mutual

-- Adds what a value holds under a key: tables are resolved into their entries. Of two settings of
-- one key the later one counts.
def flatten (path : String) : Toml.Value → Settings → Settings
  | .table entries, found => flattenEntries path entries found
  | .text s, found => setEntry found path (settingOf (.text s))
  | .integer n, found => setEntry found path (settingOf (.integer n))
  | .float bits, found => setEntry found path (settingOf (.float bits))
  | .boolean b, found => setEntry found path (settingOf (.boolean b))
  | .moment d, found => setEntry found path (settingOf (.moment d))
  | .array items, found => setEntry found path (settingOf (.array items))

def flattenEntries (path : String) : List (String × Toml.Value) → Settings → Settings
  | [], found => found
  | (key, v) :: rest, found => flattenEntries path rest (flatten (keyBelow path key) v found)

end

-- The settings of a document, under their dotted keys, unless the text is none. They have the
-- lowest priority.
def ofDocument? (name text : String) : Option SettingSource := do
  let document ← (← Toml.parse text).resolve
  return ofSettings name 0 (flatten "" document [])

def replaceChars (p : Char → Bool) (c : Char) (s : String) : String :=
  String.ofList (s.toList.map fun d => if p d then c else d)

-- The part of the name of a variable behind a beginning that it has.
def behind (start name : String) : String :=
  if start.toList.isPrefixOf name.toList then
    String.ofList (name.toList.drop start.length)
  else name

-- The key for a variable: in small letters, with dots for underscores.
def keyOfVariable (start name : String) : String :=
  replaceChars (· == '_') '.' (Text.lower (behind start name))

-- The variable for a key: in capitals, with underscores for dots and hyphens.
def variableOfKey (start key : String) : String :=
  start ++ Text.upper (replaceChars (fun c => c == '.' || c == '-') '_' key)

def ofVariables (start : String) (table : List (String × String)) : SettingSource where
  name := "environment"
  priority := 100
  keys := (table.filter fun v => start.toList.isPrefixOf v.1.toList).map fun v =>
    keyOfVariable start v.1
  get? key := (table.lookup (variableOfKey start key)).map .text

end SettingSource
end Interpose
