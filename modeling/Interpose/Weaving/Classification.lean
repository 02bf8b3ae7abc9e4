import Interpose.Metadata.Hierarchy
import Interpose.Pointcut.Cache
import Interpose.Weaving.Aspect

namespace Interpose

-- Steps that read pointcuts through a cache.
abbrev Reading := ExceptT WeavingError (StateM Pointcut.Cache)

namespace Method

-- What keeps a method from being an advice, whatever its pointcut is.
def shapeFault? (m : Method) : Option AdviceFault :=
  if m.isConstructor then some .constructor
  else if m.modifiers.has .static then some .static
  else if m.modifiers.has .abstract then some .abstract
  else if m.returnType != valueTypeName then some (.result m.returnType)
  else
    match m.params with
    | [p] => if namesJoinPoint p then none else some (.params [p])
    | ps => some (.params ps)

-- The parameter of an advice does not go with the domain of its pointcut.
def domainFault? (m : Method) (p : Pointcut) : Option AdviceFault :=
  if m.params.head? == some proceedingJoinPointTypeName && p.isAutowire then some .methodsOnly
  else if m.params.head? == some autowireJoinPointTypeName && p.isExecution then
    some .fieldsOnly
  else none

end Method

namespace Classification

variable {σ α : Type}

def refuse (fault : Option AdviceFault) (advice : String) : Reading Unit :=
  match fault with
  | some f => throw (.illegal advice f)
  | none => pure ()

def readPointcut (advice expression : String) : Reading Pointcut := do
  match (← get).read expression with
  | .ok ((_, p), cache) => set cache; return p
  | .error e => throw (.invalid advice e)

def annotatedPointcut (advice : String) (a : Annotation) : Reading Pointcut :=
  match a.value? with
  | some expression => readPointcut advice expression
  | none => throw (.illegal advice .noExpression)

-- The pointcut of an advice method: all its expressions are read before they are merged.
def pointcutOf (advice : String) (m : Method) : Reading Pointcut := do
  match ← (m.annotationsNamed aroundAnnotation).mapM (annotatedPointcut advice) with
  | [] => throw (.illegal advice .noExpression)
  | p :: ps =>
    match ps.foldlM Pointcut.merge p with
    | .ok merged => return merged
    | .error c => throw (.invalid advice (.crosscut c))

-- The code of an advice method must be in the catalog.
def bodyOf (catalog : Catalog σ) (aspect method : String) : Except WeavingError (AdviceBody σ) :=
  match catalog.body? aspect method with
  | some body => .ok body
  | none => .error (.illegal (aspect ++ "." ++ method) .noBody)

def adviceOf (catalog : Catalog σ) (providers : Providers σ) (t : TypeDescription) (m : Method) :
    Reading (Advice σ) := do
  let name := t.name ++ "." ++ m.name
  refuse m.shapeFault? name
  let pointcut ← pointcutOf name m
  refuse (m.domainFault? pointcut) name
  let body ← bodyOf catalog t.name m.name
  let provider ← (providers t.name).mapError WeavingError.container
  let privilege ← t.advicePrivilege m.name
  return { aspect := t.name, method := m.name, pointcut, provider, body, privilege }

-- The methods of a type that declare advices, in order.
def adviceMethods (t : TypeDescription) : List Method :=
  t.methods.filter fun m => m.isAnnotated aroundAnnotation

-- All advices: by types, then by methods, in order. The first fault ends it.
def advices (catalog : Catalog σ) (providers : Providers σ) (types : Hierarchy) :
    Reading (List (Advice σ)) :=
  ((types.types.filter (·.isAspect)).flatMap fun t => (adviceMethods t).map (t, ·)).mapM
    fun (t, m) => adviceOf catalog providers t m

end Classification
end Interpose
