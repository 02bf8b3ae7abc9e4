import Interpose.Toml.Value

namespace Interpose.Toml.Value

variable {α : Type}

-- A field of a record, if the record has it; nothing if the value is no record. Fields are found by
-- key in a table or by place in an array.
def field? (v : Value) (key : String) (place : Nat) : Option (Option Value) :=
  match v with
  | table entries => some (entries.lookup key)
  | array items => some items[place]?
  | moment _ => some none
  | _ => none

def fieldOr (v : Value) (key : String) (place : Nat) (read : Value → Option α) (default : α) :
    Option α := do
  match ← v.field? key place with
  | some field => read field
  | none => return default

def boolean? : Value → Option Bool
  | boolean b => some b
  | _ => none

def text? : Value → Option String
  | text s => some s
  | _ => none

-- A value without any parts.
def isHollow : Value → Bool
  | table [] => true
  | array [] => true
  | _ => false

-- The name of an alternative: a text, or the key of the only entry of a table if there is nothing
-- in it.
def alternative? : Value → Option String
  | text s => some s
  | table [(key, v)] => if v.isHollow then some key else none
  | _ => none

end Interpose.Toml.Value
