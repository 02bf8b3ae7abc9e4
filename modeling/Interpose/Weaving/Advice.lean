import Interpose.Container.Session
import Interpose.Pointcut.Matching
import Interpose.Text.Integer
import Interpose.Weaving.Ranked
import Interpose.Weaving.Error

namespace Interpose

-- A call of a method, or an allocation, which has no target.
structure Call where
  caller : Option String
  target : Option Value
  args : List Value

-- What can be asked at the execution of a method: that it proceeds, perhaps with other arguments.
def Requests.execution : Requests := ⟨Option (List Value), fun _ => Except Failure Value⟩

inductive AutowireRequest where
  | proceed
  -- Has the join point proceeded with success?
  | resolved

def Requests.autowire : Requests where
  Request := AutowireRequest
  Reply
    | .proceed => Except Failure Value
    | .resolved => Bool

-- A join point while the program runs.
inductive JoinPoint where
  | execution (joint : MethodJoint) (invocation : Call)
  | autowire (joint : FieldJoint)

namespace JoinPoint

def requests : JoinPoint → Requests
  | execution _ _ => .execution
  | autowire _ => .autowire

def joint : JoinPoint → Joint
  | execution j _ => .method j
  | autowire j => .field j

def annotations : JoinPoint → List Annotation
  | execution j _ => j.method.annotations
  | autowire j => j.field.annotations

variable {σ : Type}

-- Lets a join point proceed; a failure is given back.
def tryProceed : (jp : JoinPoint) → Behaviour σ jp.requests (Except Failure Value)
  | execution _ _ => Behaviour.request (R := .execution) none
  | autowire _ => Behaviour.request (R := .autowire) .proceed

-- Lets a join point proceed; a failure is passed on.
def proceed (jp : JoinPoint) : Behaviour σ jp.requests Value :=
  jp.tryProceed.bind .ofExcept

-- What is said where a method is needed and a field is there.
def notExecution : Failure := .other "not an execution join point"

-- Lets a method proceed with other arguments.
def proceedOn (args : List Value) : (jp : JoinPoint) → Behaviour σ jp.requests Value
  | execution _ _ => (Behaviour.request (R := .execution) (some args)).bind .ofExcept
  | autowire _ => .fail notExecution

-- Has the filling of a field proceeded with success?
def isResolved : (jp : JoinPoint) → Behaviour σ jp.requests Bool
  | execution _ _ => .result false
  | autowire _ => Behaviour.request (R := .autowire) .resolved

variable {α : Type}

-- The invocation at a join point that is the execution of a method.
def invocation : JoinPoint → Except Failure (MethodJoint × Call)
  | execution j i => .ok (j, i)
  | autowire _ => .error notExecution

def this (k : Kind α) (jp : JoinPoint) : Except Failure α := do
  let (j, i) ← jp.invocation
  match i.target with
  | some v => (k.cast v).mapError .container
  | none => .error (.other ("join point " ++ j.signature ++ " has no target"))

def arg (k : Kind α) (index : Nat) (jp : JoinPoint) : Except Failure α := do
  let (j, i) ← jp.invocation
  match i.args[index]? with
  | some v => (k.cast v).mapError .container
  | none =>
    .error (.other ("join point " ++ j.signature ++ " has no argument #" ++ toString index))

def inspect (resolved : Bool) : JoinPoint → String
  | execution j i =>
    "Execution(" ++ Text.record "ProceedingJoinPoint" [
      ("joint", Text.quoted j.signature), ("caller", Text.optional (i.caller.map Text.quoted)),
      ("args", toString i.args.length)] ++ ")"
  | autowire j =>
    "Autowire(" ++ Text.record "AutowireJoinPoint" [
      ("joint", Text.quoted j.signature), ("resolved", toString resolved)] ++ ")"

end JoinPoint

-- The code of an advice: it takes the instance of the aspect and the join point.
abbrev AdviceBody (σ : Type) := Value → (jp : JoinPoint) → Behaviour σ jp.requests Value

structure Advice (σ : Type) where
  aspect : String
  method : String
  pointcut : Pointcut
  -- Where the instance of the aspect comes from.
  provider : Provider σ
  body : AdviceBody σ
  privilege : Int

-- The privilege of an advice that declares none; all others are further out.
def lowestPrivilege : Int := 0x7fffffff

namespace Advice

variable {σ τ : Type}

def name (a : Advice σ) : String := a.aspect ++ "." ++ a.method

-- Runs an advice at a join point. Its requests are answered by `reply`.
def advise (services : Services σ) (a : Advice σ) (jp : JoinPoint)
    (reply : (r : jp.requests.Request) → τ → Act σ (jp.requests.Reply r × τ)) (m : τ) :
    Act σ Value := do
  let aspect ← a.provider.supply.runPlain services
  (a.body aspect jp).run services reply m

-- Takes part in a call from the caller. Only where the caller matters it is looked at.
def takesPart (types : Hierarchy) (caller : Option String) (j : MethodJoint) (a : Advice σ) :
    Bool :=
  !a.pointcut.watchesCaller || a.pointcut.selectsMethod types caller j

def inspect (a : Advice σ) : String :=
  Text.record "AdviceDescriptor" [
    ("advice", Text.quoted a.name), ("pointcut", Text.quoted a.pointcut.text),
    ("privilege", toString a.privilege)]

def inspectAtMethod (a : Advice σ) : String :=
  "ExecutionAdvisor(" ++ a.name ++ ", " ++ toString a.privilege ++ ")"

def inspectAtField (a : Advice σ) : String :=
  "AutowireAdvisor(" ++ a.name ++ ", " ++ toString a.privilege ++ ")"

end Advice

-- Advices of one join point, the outermost first.
abbrev Advisors (σ : Type) := Ranked (Advice σ) Advice.privilege

-- The annotation that gives the privilege of an advice: the first of the method, or else the first
-- of its type.
def TypeDescription.privilegeNote? (t : TypeDescription) (method : String) : Option Annotation :=
  ((t.method? method).bind fun m => (m.annotationsNamed privilegeAnnotation).head?).or
    (t.annotationsNamed privilegeAnnotation).head?

def TypeDescription.advicePrivilege (t : TypeDescription) (method : String) :
    Except WeavingError Int :=
  match t.privilegeNote? method with
  | none => .ok lowestPrivilege
  | some note =>
    match Text.integer? 32 (Text.trim (note.value?.getD "")) with
    | some level => .ok level
    | none => .error (.illegal (t.name ++ "." ++ method) (.privilege (note.value?.getD "")))

end Interpose
