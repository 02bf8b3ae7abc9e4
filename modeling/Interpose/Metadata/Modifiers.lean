namespace Interpose

inductive Modifier where
  | pub | priv | static | final | abstract | bridge | synthetic
  deriving DecidableEq, Repr

namespace Modifier

def all : List Modifier := [pub, priv, static, final, abstract, bridge, synthetic]

-- The bit that stands for a modifier.
def bit : Modifier → Nat
  | pub => 1
  | priv => 2
  | static => 4
  | final => 8
  | abstract => 16
  | bridge => 32
  | synthetic => 64

def keyword : Modifier → String
  | pub => "public"
  | priv => "private"
  | static => "static"
  | final => "final"
  | abstract => "abstract"
  | bridge => "bridge"
  | synthetic => "synthetic"

def ofKeyword? (s : String) : Option Modifier := all.find? (·.keyword == s)

end Modifier

structure Modifiers where
  bits : Nat
  deriving DecidableEq, Repr

namespace Modifiers

def ofList (ms : List Modifier) : Modifiers := ⟨ms.foldl (fun bits m => bits ||| m.bit) 0⟩

-- Has all of the other's modifiers, of which there is at least one.
def contains (a b : Modifiers) : Bool := a.bits &&& b.bits == b.bits && b.bits != 0

def intersects (a b : Modifiers) : Bool := a.bits &&& b.bits != 0

def has (a : Modifiers) (m : Modifier) : Bool := a.contains ⟨m.bit⟩

def text (a : Modifiers) : String :=
  " ".intercalate ((Modifier.all.filter a.has).map (·.keyword))

end Modifiers
end Interpose
