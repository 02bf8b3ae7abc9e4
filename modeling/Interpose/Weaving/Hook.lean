import Interpose.Weaving.Proxy
import Interpose.Weaving.Template

namespace Interpose

-- A way to a join point from outside.
inductive Hook (σ : Type) where
  | method (component method : String)
  -- With advices, the chain is all that is needed; else the component is looked up.
  | field (fieldType : String) (chain : Option (AutowireChain σ))

namespace Hook

variable {σ : Type}

def isMethod : Hook σ → Bool
  | method _ _ => true
  | field _ _ => false

-- Goes to the join point. Fields need no arguments.
def invoke (services : Services σ) (args : List Value) : Hook σ → Act σ Value
  | method component name => do
    let h ← services.get component
    services.invoke h none name args
  | field _ (some chain) => chain.resolve services
  | field fieldType none => do return (← services.get fieldType).toValue

def inspect : Hook σ → String
  | method component name => "AutowiringHook(" ++ component ++ "." ++ name ++ ")"
  | field fieldType chain =>
    "AutowiringHook(" ++ fieldType ++ ", woven: " ++ toString chain.isSome ++ ")"

-- The methods of a type that hooks lead to: no constructors, and only those that the pointcut
-- matches when called from no type.
def methodJoints (types : Hierarchy) (p : Pointcut) (t : TypeDescription) : List MethodJoint :=
  t.methodJoints.filter fun j =>
    !j.method.isConstructor && j.method.isAdvisable && p.selectsMethod types none j

-- The fields of a type that hooks lead to.
def fieldJoints (types : Hierarchy) (p : Pointcut) (t : TypeDescription) : List FieldJoint :=
  t.fieldJoints.filter fun j =>
    j.field.isInjected && p.isAutowire && p.selectsField types j

-- The hooks of a pointcut, by their join points.
def ofPointcut (l : Layer σ) (table : Proxies σ) (p : Pointcut) : List (Joint × Hook σ) :=
  (Layer.candidates l.types).flatMap fun t =>
    (methodJoints l.types p t).map (fun j => (.method j, .method t.name j.name)) ++
    (fieldJoints l.types p t).map fun j =>
      (.field j, .field j.field.fieldType ((table.get? t.name).bind (·.injectionChain? j.name)))

def ofTemplate (l : Layer σ) (table : Proxies σ) (template : String) (args : List String) :
    Except WeavingError (List (Joint × Hook σ)) := do
  let expression ← Template.fill template args
  let p ← (Pointcut.parse expression).mapError WeavingError.pointcut
  return ofPointcut l table p

end Hook
end Interpose
