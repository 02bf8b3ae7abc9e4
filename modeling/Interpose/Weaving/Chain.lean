import Interpose.Container.Basic
import Interpose.Weaving.Advice

namespace Interpose

-- The code that a chain of advices runs around.
inductive Intercepted (σ : Type) where
  | method (body : MethodCode σ)
  -- Its argument is the wiring of the new instance.
  | allocation (allocator : AllocationCode σ)
  | initialization (init : InitializationCode σ)

namespace Intercepted

variable {σ : Type}

def inspect : Intercepted σ → String
  | method _ => "Original::Method"
  | allocation _ => "Original::New"
  | initialization _ => "Original::Init"

def targetOf (j : MethodJoint) (i : Call) : Except Failure Value :=
  match i.target with
  | some v => .ok v
  | none => .error (.other (j.signature ++ " was invoked without a target"))

def wiringOf (j : MethodJoint) (i : Call) : Except Failure Wiring :=
  match i.args with
  | v :: _ => (Kind.wiring.cast v).mapError .container
  | [] => .error (.other (j.signature ++ " was invoked without wiring"))

def run (j : MethodJoint) (i : Call) : Intercepted σ → Action σ Value
  | method body => do body (← .ofExcept (targetOf j i)) i.args
  | allocation allocator => do allocator (← .ofExcept (wiringOf j i))
  | initialization init => do
    init (← .ofExcept (targetOf j i))
    return .unit

end Intercepted

structure MethodChain (σ : Type) where
  joint : MethodJoint
  types : Hierarchy
  intercepted : Intercepted σ
  advisors : Advisors σ

namespace MethodChain

variable {σ : Type}

def size (c : MethodChain σ) : Nat := c.advisors.size

def isEmpty (c : MethodChain σ) : Bool := c.advisors.isEmpty

-- Runs the given advices around the intercepted code. An advice that takes no part is passed over;
-- one that proceeds runs all those behind it.
def through (services : Services σ) (types : Hierarchy) (j : MethodJoint)
    (intercepted : Intercepted σ) : List (Advice σ) → Call → Act σ Value
  | [], i => (intercepted.run j i).runPlain services
  | a :: rest, i =>
    if a.takesPart types i.caller j then
      a.advise services (.execution j i) (fun args _ => do
        let inner := { i with args := args.getD i.args }
        return (← (through services types j intercepted rest inner).attempt, ())) ()
    else through services types j intercepted rest i

def invoke (services : Services σ) (c : MethodChain σ) (i : Call) : Act σ Value :=
  through services c.types c.joint c.intercepted c.advisors.advisors i

def inspect (c : MethodChain σ) : String :=
  Text.record "MethodChain"
    [("joint", Text.quoted c.joint.signature), ("advisors", toString c.size)]

end MethodChain

-- The advices of a field and where its value comes from, if it comes from anywhere.
structure AutowireChain (σ : Type) where
  joint : FieldJoint
  provider : Option (Provider σ)
  advisors : Advisors σ

namespace AutowireChain

variable {σ : Type}

def size (c : AutowireChain σ) : Nat := c.advisors.size

def isEmpty (c : AutowireChain σ) : Bool := c.advisors.isEmpty

-- The value that a field gets without advices.
def lookUp (services : Services σ) (j : FieldJoint) : Option (Provider σ) → Act σ Value
  | some p => p.get services
  | none => Act.raise (.componentNotFound j.field.fieldType)

-- Answers an advice at a field: once the field has proceeded with success, it keeps the value.
def reply (inner : Act σ Value) :
    (r : AutowireRequest) → Option Value → Act σ (Requests.autowire.Reply r × Option Value)
  | .proceed, some v => return (.ok v, some v)
  | .proceed, none => do
    match ← inner.attempt with
    | .ok v => return (.ok v, some v)
    | .error f => return (.error f, none)
  | .resolved, kept => return (kept.isSome, kept)

def through (services : Services σ) (j : FieldJoint) (provider : Option (Provider σ)) :
    List (Advice σ) → Act σ Value
  | [] => lookUp services j provider
  | a :: rest =>
    a.advise services (.autowire j) (reply (through services j provider rest)) none

def resolve (services : Services σ) (c : AutowireChain σ) : Act σ Value :=
  through services c.joint c.provider c.advisors.advisors

def inspect (c : AutowireChain σ) : String :=
  Text.record "AutowireChain"
    [("joint", Text.quoted c.joint.signature), ("advisors", toString c.size)]

end AutowireChain
end Interpose
