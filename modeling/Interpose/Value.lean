import Interpose.Failure
import Interpose.Text.Quoted

namespace Interpose

-- How the methods behind a handle are reached.
inductive Route where
  -- By the definition of the component.
  | direct
  -- By the proxy of the component.
  | woven
  -- By the definition of a component outside of the container.
  | outside
  deriving DecidableEq, Repr

-- How an instance is shown.
structure Label where
  name : String
  id : Nat
  deriving DecidableEq, Repr

def Label.text (l : Label) : String := l.name ++ "#" ++ toString l.id

-- An instance of a component. Its state is kept elsewhere, under the instance.
structure Instance where
  -- The name of the type that it is an instance of.
  kind : String
  -- Not every instance can be shown.
  label : Option Label
  -- Tells apart instances of equal labels.
  copy : Nat
  deriving DecidableEq, Repr

inductive Value where
  | text (s : String)
  | int (n : Int64)
  | bool (b : Bool)
  | unit
  | word (n : UInt32)
  -- A count of things.
  | size (n : Nat)
  | object (i : Instance)
  | wiring (fields : List (String × Value))
  -- The serial number tells apart handles that were made at different times.
  | handle (typeName : String) (target : Value) (route : Route) (serial : Nat)

-- What methods of a component are called on.
structure Handle where
  typeName : String
  -- The instance itself; what is called on it goes around the proxy.
  target : Value
  route : Route
  serial : Nat

namespace Handle

def toValue (h : Handle) : Value := .handle h.typeName h.target h.route h.serial

def inspect (h : Handle) : String :=
  Text.record "ComponentRef" [("type_name", Text.quoted h.typeName)]

end Handle

-- The values that fields of a component get, by the names of the fields.
structure Wiring where
  fields : List (String × Value)

-- A kind of values, by the name that it is reported with.
structure Kind (α : Type) where
  name : String
  read? : Value → Option α

namespace Kind

def text : Kind String where
  name := "alloc::string::String"
  read? | .text s => some s | _ => none

def int : Kind Int64 where
  name := "i64"
  read? | .int n => some n | _ => none

def bool : Kind Bool where
  name := "bool"
  read? | .bool b => some b | _ => none

def unit : Kind Unit where
  name := "()"
  read? | .unit => some () | _ => none

def word : Kind UInt32 where
  name := "u32"
  read? | .word n => some n | _ => none

def wiring : Kind Wiring where
  name := "weft_core::component::Wiring"
  read? | .wiring fields => some ⟨fields⟩ | _ => none

def handle : Kind Handle where
  name := "weft_core::container::ComponentRef"
  read? | .handle typeName target route serial => some ⟨typeName, target, route, serial⟩
        | _ => none

def instanceOf (typeName : String) : Kind Instance where
  name := typeName
  read? | .object i => if i.kind = typeName then some i else none
        | _ => none

variable {α : Type}

def mismatch (k : Kind α) : ContainerError := .typeMismatch k.name

def exactly (k : Kind α) (v : Value) : Except ContainerError α :=
  match k.read? v with
  | some a => .ok a
  | none => .error k.mismatch

-- A value of the kind, or the target of a handle if that is one.
def cast (k : Kind α) (v : Value) : Except ContainerError α :=
  match k.read? v, v with
  | some a, _ => .ok a
  | none, .handle _ target _ _ => k.exactly target
  | none, _ => .error k.mismatch

end Kind

namespace Wiring

def empty : Wiring := ⟨[]⟩

def size (w : Wiring) : Nat := w.fields.length

def isEmpty (w : Wiring) : Bool := w.fields.isEmpty

def get? (w : Wiring) (field : String) : Option Value := w.fields.lookup field

-- Wires a field; what it was wired to before is forgotten.
def insert (w : Wiring) (field : String) (v : Value) : Wiring :=
  ⟨w.fields.filter (·.1 != field) ++ [(field, v)]⟩

def toValue (w : Wiring) : Value := .wiring w.fields

def value (w : Wiring) (field : String) : Except ContainerError Value :=
  match w.get? field with
  | some v => .ok v
  | none => .error (.fieldNotWired field)

variable {α : Type}

def get (w : Wiring) (k : Kind α) (field : String) : Except ContainerError α := do
  k.cast (← w.value field)

def component (w : Wiring) (field : String) : Except ContainerError Handle := do
  match Kind.handle.read? (← w.value field) with
  | some h => return h
  | none => throw (.typeMismatch "ComponentRef")

def inspect (w : Wiring) : String :=
  Text.record "Wiring"
    [("fields", Text.bracketed
      (((w.fields.map (·.1)).mergeSort fun a b => decide (a ≤ b)).map Text.quoted))]

end Wiring
end Interpose
