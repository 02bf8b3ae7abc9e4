import Interpose.Metadata.Modifiers
import Interpose.Metadata.QualifiedName
import Interpose.Metadata.Vocabulary

namespace Interpose

structure Annotation where
  typeName : String
  values : List String
  deriving DecidableEq, Repr

namespace Annotation

def value? (a : Annotation) : Option String := a.values.head?

def package (a : Annotation) : String := packagePart a.typeName

def simpleName (a : Annotation) : String := simplePart a.typeName

def is (a : Annotation) (typeName : String) : Bool := a.typeName == typeName

end Annotation

inductive MethodRole where
  -- An ordinary method of an instance.
  | method
  -- The allocation of an instance from its injected fields.
  | allocation
  -- The initialization of an allocated instance.
  | initialization
  deriving DecidableEq, Repr

structure Method where
  name : String
  kind : MethodRole
  modifiers : Modifiers
  returnType : String
  params : List String
  annotations : List Annotation
  deriving DecidableEq, Repr

namespace Method

def plain (name : String) : Method where
  name := name
  kind := .method
  modifiers := .ofList [.pub]
  returnType := unitTypeName
  params := []
  annotations := []

-- The allocation of a type: it takes the injected fields and returns the instance.
def allocation (typeName : String) : Method :=
  { plain allocationName with
    kind := .allocation, returnType := typeName, params := [wiringTypeName] }

def initialization : Method :=
  { plain initializationName with kind := .initialization }

-- A method of the shape that an advice needs.
def advice (name : String) : Method :=
  { plain name with returnType := valueTypeName, params := [joinPointTypeName] }

def annotate (m : Method) (a : Annotation) : Method :=
  { m with annotations := m.annotations ++ [a] }

-- Makes the method an advice for a pointcut expression.
def around (m : Method) (expression : String) : Method :=
  m.annotate ⟨ aroundAnnotation, [expression]⟩

def privilege (m : Method) (level : Int) : Method :=
  m.annotate ⟨ privilegeAnnotation, [toString level]⟩

def isAnnotated (m : Method) (typeName : String) : Bool := m.annotations.any (·.is typeName)

def annotationsNamed (m : Method) (typeName : String) : List Annotation :=
  m.annotations.filter (·.is typeName)

-- Allocation and initialization are constructors.
def isConstructor (m : Method) : Bool := m.kind != .method

-- The modifiers that keep a method from being advised.
def shielding : Modifiers := .ofList [.final, .static, .priv, .abstract, .bridge, .synthetic]

def isAdvisable (m : Method) : Bool := !m.modifiers.intersects shielding

end Method

structure Field where
  name : String
  fieldType : String
  modifiers : Modifiers
  annotations : List Annotation
  deriving DecidableEq, Repr

namespace Field

def plain (name fieldType : String) : Field where
  name := name
  fieldType := fieldType
  modifiers := .ofList [.priv]
  annotations := []

-- The container fills every field that is neither static nor final.
def isInjected (f : Field) : Bool := !f.modifiers.has .static && !f.modifiers.has .final

end Field

structure TypeDescription where
  name : String
  supertypes : List String
  modifiers : Modifiers
  annotations : List Annotation
  methods : List Method
  fields : List Field
  deriving DecidableEq, Repr

namespace TypeDescription

def plain (name : String) : TypeDescription where
  name := name
  supertypes := []
  modifiers := .ofList [.pub]
  annotations := []
  methods := []
  fields := []

def package (t : TypeDescription) : String := packagePart t.name

def simpleName (t : TypeDescription) : String := simplePart t.name

def annotate (t : TypeDescription) (a : Annotation) : TypeDescription :=
  { t with annotations := t.annotations ++ [a] }

def addMethod (t : TypeDescription) (m : Method) : TypeDescription :=
  { t with methods := t.methods ++ [m] }

def addField (t : TypeDescription) (f : Field) : TypeDescription :=
  { t with fields := t.fields ++ [f] }

def isAnnotated (t : TypeDescription) (typeName : String) : Bool :=
  t.annotations.any (·.is typeName)

def annotationsNamed (t : TypeDescription) (typeName : String) : List Annotation :=
  t.annotations.filter (·.is typeName)

def method? (t : TypeDescription) (name : String) : Option Method :=
  t.methods.find? (·.name == name)

def methodIndex? (t : TypeDescription) (name : String) : Option Nat :=
  t.methods.findIdx? (·.name == name)

def field? (t : TypeDescription) (name : String) : Option Field :=
  t.fields.find? (·.name == name)

def fieldIndex? (t : TypeDescription) (name : String) : Option Nat :=
  t.fields.findIdx? (·.name == name)

-- The fields that the container fills, in order of declaration.
def injectedFields (t : TypeDescription) : List Field := t.fields.filter (·.isInjected)

def isAspect (t : TypeDescription) : Bool := t.isAnnotated aspectAnnotation

end TypeDescription
end Interpose
