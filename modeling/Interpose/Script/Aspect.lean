import Interpose.Script.Component
import Interpose.Weaving.Aspect

namespace Interpose.Script

-- An advice hands on a result, which is the unit at first and the result of the advice at last.
inductive Step where
  | log (text : String)
  | proceed
  | proceedOn (args : List Value)
  -- Proceeds; a failure becomes a text.
  | rescue
  -- Proceeds again and again, so many times at most, until it succeeds.
  | retry (times : Nat)
  | give (v : Value)
  | fail (message : String)
  -- Puts texts around the result.
  | wrap (before after : String)
  | arg (index : Nat)
  | intArg (index : Nat)
  | this
  | isAutowire
  -- Counts on the instance of the aspect.
  | count
  | aspect
  | field (name : String)
  | call (field method : String) (args : List Value)
  -- Logs what can be known of the join point.
  | inspect
  | info

-- Proceeds at most so many times, until it succeeds; the last failure counts.
def retrying (jp : JoinPoint) (old : Value) : Nat → Behaviour Stage jp.requests Value
  | 0 => return old
  | 1 => jp.proceed
  | n + 1 => do
    match ← jp.tryProceed with
    | .ok v => return v
    | .error _ => retrying jp old n

-- All that is known of a join point, on one line.
def infoLine (jp : JoinPoint) (resolved : Bool) : String :=
  let j := jp.joint
  let notes := ",".intercalate (jp.annotations.map (·.typeName))
  let head := "|".intercalate [j.declaring.name, j.name, j.signature, j.text, notes]
  match jp with
  | .execution j i =>
    "|".intercalate [head, "exec true", "caller " ++ i.caller.getD "-",
      "target " ++ (i.target.map Value.render).getD "-", "args " ++ renderAll "," i.args,
      "mods " ++ j.method.modifiers.text]
  | .autowire j =>
    "|".intercalate [head, "exec false", "type " ++ j.field.fieldType,
      "resolved " ++ toString resolved, "mods " ++ j.field.modifiers.text]

def JoinPoint.isAutowire : JoinPoint → Bool
  | .execution _ _ => false
  | .autowire _ => true

-- Does one step on the instance of the aspect; `kind` is the kind of scripted instances.
def Step.run (kind : String) (i : Instance) (jp : JoinPoint) (result : Value) :
    Step → Behaviour Stage jp.requests Value
  | log text => do
    Behaviour.log (text ++ " " ++ jp.joint.signature)
    return result
  | proceed => jp.proceed
  | proceedOn args => do jp.proceedOn (← Behaviour.writtenAll args)
  | rescue => do
    match ← jp.tryProceed with
    | .ok v => return v
    | .error f => return .text ("caught: " ++ f.message)
  | retry times => retrying jp result times
  | give v => Behaviour.written v
  | fail message => .fail (.user message)
  | wrap before after => return .text (before ++ result.render ++ after)
  | arg index => do return .text (← .ofExcept (jp.arg .text index))
  | intArg index => do return .int (← .ofExcept (jp.arg .int index))
  | this => do return .object (← .ofExcept (jp.this (.instanceOf kind)))
  | isAutowire => return .bool (JoinPoint.isAutowire jp)
  | count => return .int (.ofNat (← Behaviour.countUp i))
  | aspect => return .text i.shown
  | field name => do
    return .text (((← Behaviour.memory i).texts.lookup name).getD "-")
  | call f method args => do
    Behaviour.call (← keptHandle i f) none method (← Behaviour.writtenAll args)
  | inspect => do
    Behaviour.log (jp.inspect (← jp.isResolved))
    return result
  | info => do
    Behaviour.log (infoLine jp (← jp.isResolved))
    return result

def runSteps (kind : String) (steps : List Step) (i : Instance) (jp : JoinPoint) :
    Behaviour Stage jp.requests Value :=
  steps.foldlM (Step.run kind i jp) .unit

inductive Origin where
  | component
  -- The instance is there already.
  | existing
  | allocation
  deriving DecidableEq, Repr

structure AdviceCode where
  steps : List Step
  -- The advice wants a text for the instance of the aspect.
  onText : Bool

structure Aspect where
  origin : Origin
  -- The component, without the advice methods.
  component : Component
  privilege : Option Int
  advices : List (Method × AdviceCode)

def addAdvice (kind : String) (a : Interpose.Aspect Stage) (e : Method × AdviceCode) :
    Interpose.Aspect Stage :=
  if e.2.onText then a.around e.1 .text fun _ _ => return .unit
  else a.around e.1 (.instanceOf kind) fun i jp => runSteps kind e.2.steps i jp

-- An aspect that is more than a component: its plain methods belong to the type, and it has neither
-- an initialization nor laziness.
def Aspect.bare (a : Aspect) (kind : String) : StateM Stage (Interpose.Aspect Stage) := do
  let c := a.component
  let type := { c.type with methods := c.methods.map (·.1) }
  let base ←
    if a.origin = .existing then do
      let (i, s) := (← get).newLabelled kind type.name
      set s
      pure (Interpose.Aspect.ofInstance type (.object i))
    else pure (Interpose.Aspect.make type (c.allocation.run kind type.name))
  let base := c.fields.foldl Interpose.Aspect.addField base
  return (c.scope.map base.setScope).getD base

def Aspect.define (a : Aspect) (kind : String) : StateM Stage (Interpose.Aspect Stage) := do
  let base ←
    match a.origin with
    | .component => do pure (Interpose.Aspect.ofComponent (← a.component.define kind))
    | _ => a.bare kind
  let base := (a.privilege.map base.withPrivilege).getD base
  return a.advices.foldl (addAdvice kind) base

-- An advice that belongs to no aspect of a container; its steps run on an instance of its own.
structure FreeAdvice where
  name : String
  expression : String
  privilege : Option Int
  steps : List Step

def freeInstance (kind : String) (index : Nat) : Instance := ⟨kind, some ⟨"free", 0⟩, index⟩

def FreeAdvice.define (a : FreeAdvice) (kind aspect : String) (index : Nat) :
    Except Pointcut.ReadError (Advice Stage) := do
  let pointcut ← Pointcut.parse a.expression
  return {
    aspect
    method := a.name
    pointcut
    provider := ⟨aspect, return .object (freeInstance kind index)⟩
    body := fun this jp => do
      runSteps kind a.steps (← .check ((Kind.instanceOf kind).cast this)) jp
    privilege := a.privilege.getD lowestPrivilege }

-- Advices in order; the first that cannot be read ends it.
def freeAdvices (kind aspect : String) (l : List FreeAdvice) :
    Except Pointcut.ReadError (List (Advice Stage)) :=
  l.zipIdx.mapM fun (a, index) => a.define kind aspect (index + 1)

end Interpose.Script
