import Interpose.Toml.Number
import Interpose.Toml.Section

namespace Interpose.Toml

-- Arrays and tables nest less deep than this, and keys have fewer parts.
def depthLimit : Nat := 80

namespace Reader

def isBareKeyChar (c : Char) : Bool := c.isAlphanum || c == '-' || c == '_'

def simpleKey : Reader String :=
  basicText <|> literalText <|> (do return String.ofList (← span1 isBareKeyChar))

def dottedKey : Reader (List String) :=
  suchThat (separated part (char '.')) fun keys => !keys.isEmpty && keys.length < depthLimit
where
  part : Reader String := do
    spaces
    let key ← simpleKey
    spaces
    return key

def entry (value : Reader Value) : Reader (List String × String × Value) := do
  let keys ← dottedKey
  char '='
  spaces
  let v ← value
  match keys.getLast? with
  | some key => return (keys.dropLast, key, v)
  | none => refuse

def array (value : Reader Value) : Reader Value := do
  char '['
  let items ← separated (do gap; let v ← value; gap; return v) (char ',')
  if !items.isEmpty then discard (option (char ','))
  gap
  char ']'
  return .array items

def inlineTable (value : Reader Value) : Reader Value := do
  char '\x7b'
  let pairs ← separated (do let e ← entry value; spaces; return e) (char ',')
  spaces
  char '\x7d'
  match pairs.foldlM (fun (es : Entries) (path, key, v) => es.add path key v) [] with
  | some es => return es.value
  | none => refuse

def scalar : Reader Value := do
  match ← peek with
  | some '"' | some '\'' => return .text (← anyText)
  | some 't' => chars "true"; return .boolean true
  | some 'f' => chars "false"; return .boolean false
  | _ =>
    (do return .moment (← dateTime)) <|> (do return .float (← float)) <|>
      (do return .integer (← integer))

-- A value with at most so many levels of arrays and tables.
def valueAt : Nat → Reader Value
  | 0 => scalar
  | depth + 1 => do
    match ← peek with
    | some '[' => array (valueAt depth)
    | some '\x7b' => inlineTable (valueAt depth)
    | _ => scalar

def value : Reader Value := valueAt (depthLimit - 1)

-- A line, or what is left of it: a comment, a header, the end of a line or an entry.
def line (d : Draft) : Reader Draft := do
  let draft ← match ← peek with
    | some '#' => do comment; lineEnd; pure d
    | some '\n' | some '\r' => do newline; pure d
    | some '[' =>
      (do
        chars "[["
        let keys ← dottedKey
        chars "]]"
        trailing
        ofOption (d.openItem keys)) <|>
      (do
        char '['
        let keys ← dottedKey
        char ']'
        trailing
        ofOption (d.openTable keys))
    | _ => do
      let (path, key, v) ← entry value
      trailing
      ofOption (d.add path key v)
  spaces
  return draft
where
  ofOption : Option Draft → Reader Draft
    | some d => return d
    | none => refuse

-- Lines up to the end of the document. The bound is on their number.
def lines : Nat → Draft → Reader Draft
  | 0, d => return d
  | bound + 1, d => do
    if (← peek).isNone then return d else lines bound (← line d)

def document : Reader Value := do
  discard (option (char '\ufeff'))
  spaces
  let d ← lines (← get).length .empty
  match d.finish with
  | some v => return v
  | none => refuse

end Reader

-- The table of a document, unless the text is none.
def parse (text : String) : Option Value :=
  match Reader.document.run text.toList with
  | some (v, []) => some v
  | _ => none

end Interpose.Toml
