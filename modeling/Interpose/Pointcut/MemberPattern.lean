import Interpose.Joint
import Interpose.Pointcut.TypePattern

namespace Interpose

inductive ParamPattern where
  -- Any number of parameters.
  | rest
  -- One parameter of an accepted type.
  | one (type : TypePattern)
  deriving DecidableEq, Repr

-- The lists that are left when some of the first elements are dropped, longest first.
def suffixes {α : Type} : List α → List (List α)
  | [] => [[]]
  | a :: as => (a :: as) :: suffixes as

namespace ParamPattern

-- Two dots stand for any number of parameters.
def parse (text : String) : ParamPattern := if text = ".." then rest else one (.parse text)

def text : ParamPattern → String
  | rest => ".."
  | one type => type.text

-- The parameters can be cut into consecutive runs, one for each pattern.
def allMatch (types : Hierarchy) : List ParamPattern → List String → Bool
  | [], params => params.isEmpty
  | rest :: patterns, params => (suffixes params).any (allMatch types patterns)
  | one _ :: _, [] => false
  | one type :: patterns, param :: params =>
    type.accepts types param && allMatch types patterns params

end ParamPattern

-- A return type, perhaps a declaring type, a name and parameters.
structure MethodPattern where
  returnType : TypePattern
  declaringType : Option TypePattern
  name : NamePattern
  params : List ParamPattern
  deriving DecidableEq, Repr

namespace MethodPattern

-- Constructors are only meant by a pattern that names them without a star.
def mayName (p : MethodPattern) (m : Method) : Bool :=
  !m.isConstructor || p.name.literal? == some m.name

def accepts (p : MethodPattern) (types : Hierarchy) (j : MethodJoint) : Bool :=
  p.mayName j.method &&
    p.name.accepts j.method.name &&
    p.declaringType.all (·.accepts types j.declaring.name) &&
    p.returnType.accepts types j.method.returnType &&
    ParamPattern.allMatch types p.params j.method.params

def text (p : MethodPattern) : String :=
  p.returnType.text ++ " " ++ ((p.declaringType.map (·.text ++ ".")).getD "") ++ p.name.text ++
    "(" ++ ", ".intercalate (p.params.map (·.text)) ++ ")"

end MethodPattern

structure FieldPattern where
  fieldType : TypePattern
  name : Option NamePattern
  deriving DecidableEq, Repr

namespace FieldPattern

def accepts (p : FieldPattern) (types : Hierarchy) (j : FieldJoint) : Bool :=
  p.fieldType.accepts types j.field.fieldType && p.name.all (·.accepts j.field.name)

def text (p : FieldPattern) : String :=
  p.fieldType.text ++ ((p.name.map (" " ++ ·.text)).getD "")

end FieldPattern
end Interpose
