namespace Interpose

-- Plain data, in which components are described and what is known of them is told.
inductive Data where
  | null
  | bool (b : Bool)
  | int (n : Int)
  | text (s : String)
  | list (items : List Data)
  -- Of several fields of one name the first counts.
  | record (fields : List (String × Data))
  deriving Inhabited

namespace Data

instance : Coe Bool Data := ⟨bool⟩
instance : Coe Nat Data := ⟨fun n => int n⟩
instance : Coe Int Data := ⟨int⟩
instance : Coe String Data := ⟨text⟩
instance : Coe (List Data) Data := ⟨list⟩
instance : Coe (List String) Data := ⟨fun l => list (l.map text)⟩
instance : Coe (List Bool) Data := ⟨fun l => list (l.map bool)⟩

def ofOption {α : Type} (f : α → Data) : Option α → Data
  | some a => f a
  | none => null

def isNull : Data → Bool
  | null => true
  | _ => false

def text? : Data → Option String
  | text s => some s
  | _ => none

def int? : Data → Option Int
  | int n => some n
  | _ => none

def bool? : Data → Option Bool
  | bool b => some b
  | _ => none

def items : Data → List Data
  | list l => l
  | _ => []

def fields : Data → List (String × Data)
  | record l => l
  | _ => []

def str (d : Data) : String := d.text?.getD ""

def integer (d : Data) : Int := d.int?.getD 0

def natural (d : Data) : Nat := d.integer.toNat

def truth (d : Data) : Bool := d.bool?.getD false

def strings (d : Data) : List String := d.items.map str

-- A field of a record; null if there is none.
def get (d : Data) (key : String) : Data := (d.fields.lookup key).getD null

def has (d : Data) (key : String) : Bool := !(d.get key).isNull

-- An item of a list; null behind its end.
def nth (d : Data) (i : Nat) : Data := d.items[i]?.getD null

end Data
end Interpose
