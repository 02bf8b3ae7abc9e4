import Interpose.Behaviour
import Interpose.Component.Scope
import Interpose.Metadata.Description

namespace Interpose

-- The allocation always comes first among the described methods.
structure Definition (σ : Type) where
  type : TypeDescription
  scope : Scope
  -- A lazy singleton is not made before it is asked for.
  lazy : Bool
  allocator : AllocationCode σ
  initializer : Option (InitializationCode σ)
  -- The code of methods; of two entries for a name the first counts.
  bodies : List (String × MethodCode σ)

namespace Definition

variable {σ : Type} {α : Type}

-- A component with the given allocation and nothing else.
def make (type : TypeDescription) (allocator : AllocationCode σ) : Definition σ where
  type := { type with methods := .allocation type.name :: type.methods }
  scope := .singleton
  lazy := false
  allocator := allocator
  initializer := none
  bodies := []

def ofInstance (type : TypeDescription) (i : Value) : Definition σ :=
  make type fun _ => pure i

def name (d : Definition σ) : String := d.type.name

def setScope (d : Definition σ) (scope : Scope) : Definition σ := { d with scope }

def setLazy (d : Definition σ) (lazy : Bool) : Definition σ := { d with lazy }

def annotate (d : Definition σ) (a : Annotation) : Definition σ :=
  { d with type := d.type.annotate a }

def addField (d : Definition σ) (f : Field) : Definition σ :=
  { d with type := d.type.addField f }

def describeMethod (d : Definition σ) (m : Method) : Definition σ :=
  { d with type := d.type.addMethod m }

def addBody (d : Definition σ) (m : Method) (body : MethodCode σ) : Definition σ :=
  { d.describeMethod m with bodies := (m.name, body) :: d.bodies }

-- Adds a method whose code wants an instance of a kind.
def addMethod (d : Definition σ) (m : Method) (k : Kind α)
    (body : α → List Value → Action σ Value) : Definition σ :=
  d.addBody m fun this args => do body (← .check (k.cast this)) args

-- Sets the initialization, which wants an instance of a kind, and describes it unless that has been
-- done.
def setInit (d : Definition σ) (k : Kind α) (init : α → Action σ Unit) : Definition σ :=
  let d := { d with initializer := some fun this => do init (← .check (k.cast this)) }
  if (d.type.method? initializationName).isSome then d else d.describeMethod .initialization

def body? (d : Definition σ) (method : String) : Option (MethodCode σ) := d.bodies.lookup method

-- The first method that may not be declared after those of the given names.
def methodFault? (taken : List String) : List Method → Option ContractFault
  | [] => none
  | m :: rest =>
    if taken.contains m.name then some (.repeatedMethod m.name)
    else if !m.isConstructor && (m.name == allocationName || m.name == initializationName) then
      some (.reservedMethod m.name)
    else methodFault? (m.name :: taken) rest

-- The first field that may not be declared after those of the given names.
def fieldFault? (taken : List String) : List Field → Option ContractFault
  | [] => none
  | f :: rest =>
    if taken.contains f.name then some (.repeatedField f.name)
    else fieldFault? (f.name :: taken) rest

-- The scope that counts: the one that an annotation gives, or else the one that was set.
def effectiveScope (d : Definition σ) : Except ContainerError Scope :=
  match d.type.annotationsNamed scopeAnnotation with
  | [] => .ok d.scope
  | [a] =>
    match Scope.parse? (a.value?.getD "") with
    | some scope => .ok scope
    | none => .error (.unknownScope d.name (a.value?.getD ""))
  | _ => .error (.duplicateScope d.name)

-- The definition as it is registered, if it keeps to the rules: members have distinct names, only
-- constructors have the reserved ones, and there is at most one scope.
def validate (d : Definition σ) : Except ContainerError (Definition σ) :=
  match methodFault? [] d.type.methods, fieldFault? [] d.type.fields with
  | some fault, _ => .error (.contractViolation d.name fault)
  | none, some fault => .error (.contractViolation d.name fault)
  | none, none => d.effectiveScope.map d.setScope

-- Runs the code of a method on an instance.
def dispatch (d : Definition σ) (target : Value) (method : String) (args : List Value) :
    Action σ Value :=
  match d.body? method with
  | some body => body target args
  | none => .raise (.methodNotFound d.name method)

def inspect (d : Definition σ) : String :=
  Text.record "ComponentDefinition" [
    ("name", Text.quoted d.name), ("scope", d.scope.label), ("lazy", toString d.lazy),
    ("methods", toString d.type.methods.length), ("fields", toString d.type.fields.length)]

end Definition
end Interpose
