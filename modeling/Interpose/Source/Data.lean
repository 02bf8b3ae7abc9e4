import Interpose.Data
import Interpose.Text.Quoted

namespace Interpose.Source

def inBlock (s : String) : String := " \x7b " ++ s ++ " \x7d"

-- Attributes are a list of a name and texts, or a name with arguments as they are written.
def attributeOf (d : Data) : String :=
  let (name, arguments) := match d with
    | .list (name :: texts) =>
      (name.str, if texts.isEmpty then ""
        else "(" ++ ", ".intercalate (texts.map fun t => Text.quoted t.str) ++ ")")
    | d => ((d.get "name").str, "(" ++ (d.get "raw").str ++ ")")
  "#[" ++ name ++ arguments ++ "] "

def attributesOf (d : Data) : String := String.join ((d.get "attrs").items.map attributeOf)

def fieldOf (d : Data) : String :=
  attributesOf d ++ (d.get "name").str ++ ": " ++ (d.get "type").str

-- The declaration of a type; it is a structure unless it says otherwise.
def typeOf (d : Data) : String :=
  let name := (d.get "name").str ++ (d.get "generics").str
  let fields := (d.get "fields").items
  let declaration := match (d.get "kind").str with
    | "unit" => "struct " ++ name ++ ";"
    | "tuple" =>
      "struct " ++ name ++ "(" ++ ", ".intercalate (fields.map fun f => (f.get "type").str) ++ ");"
    | "enum" => "enum " ++ name ++ inBlock "A, B"
    | "union" => "union " ++ name ++ inBlock (", ".intercalate (fields.map fieldOf))
    | _ => "struct " ++ name ++ inBlock (", ".intercalate (fields.map fieldOf))
  attributesOf d ++ declaration

def functionOf (d : Data) : String :=
  let receiver := ((d.get "receiver").text?).toList
  let parameters := (d.get "params").items.map fun p => (p.nth 0).str ++ ": " ++ (p.nth 1).str
  let output := match (d.get "output").text? with
    | some type => " -> " ++ type
    | none => ""
  attributesOf d ++ (d.get "vis").str ++ (if (d.get "async").truth then " async" else "") ++
    " fn " ++ (d.get "name").str ++ (d.get "generics").str ++
    "(" ++ ", ".intercalate (receiver ++ parameters) ++ ")" ++ output ++ inBlock "todo!()"

def memberOf (d : Data) : String :=
  match (d.get "const").text? with
  | some name => "const " ++ name ++ ": u32 = 1;"
  | none => functionOf d

def blockOf (d : Data) : String :=
  let ofTrait := match (d.get "trait").text? with
    | some name => name ++ " for "
    | none => ""
  "impl" ++ (d.get "generics").str ++ " " ++ ofTrait ++ (d.get "self").str ++
    inBlock ("\n".intercalate ((d.get "items").items.map memberOf))

end Interpose.Source
