import Interpose.Behaviour
import Interpose.Container.CreationChain

namespace Interpose

-- What changes while a container is in use.
structure Session (σ : Type) where
  -- The state of the code of components and advices.
  user : σ
  -- The singletons that have been made.
  cells : List (String × Handle)
  creating : CreationChain
  nextSerial : Nat
  -- The container is gone; only handles and providers of it are left.
  dropped : Bool

inductive Halt where
  | failed (f : Failure)
  -- The depth of calls is used up.
  | exhausted
  deriving DecidableEq, Repr

-- A step that changes the session. What it changed until it was halted remains.
abbrev Act (σ : Type) := ExceptT Halt (StateM (Session σ))

namespace Session

variable {σ : Type}

def start (user : σ) : Session σ where
  user := user
  cells := []
  creating := .empty
  nextSerial := 1
  dropped := false

end Session

namespace Act

variable {σ α : Type}

def fail (f : Failure) : Act σ α := throw (.failed f)

def raise (e : ContainerError) : Act σ α := fail (.container e)

def check : Except ContainerError α → Act σ α
  | .ok a => pure a
  | .error e => raise e

-- Turns a failure into a result.
def attempt (x : Act σ α) : Act σ (Except Failure α) := fun s =>
  match x s with
  | (.ok a, s) => (.ok (.ok a), s)
  | (.error (.failed f), s) => (.ok (.error f), s)
  | (.error .exhausted, s) => (.error .exhausted, s)

def resume : Except Failure α → Act σ α
  | .ok a => pure a
  | .error f => fail f

-- Says of a failure which component was being created.
def whileCreating (name : String) (x : Act σ α) : Act σ α := fun s =>
  match x s with
  | (.error (.failed f), s) => (.error (.failed (f.whileCreating name)), s)
  | r => r

def newHandle (typeName : String) (target : Value) (route : Route) : Act σ Handle := do
  let s ← get
  set { s with nextSerial := s.nextSerial + 1 }
  return { typeName, target, route, serial := s.nextSerial }

end Act

-- What code may ask of its surroundings.
structure Services (σ : Type) where
  -- A component of the container.
  get : String → Act σ Handle
  -- A call on a handle.
  invoke : Handle → Option String → String → List Value → Act σ Value

namespace Behaviour

variable {σ τ α : Type} {R : Requests}

-- Runs code. Requests are answered by `reply`, which keeps a memory of its own.
def run (services : Services σ) (reply : (r : R.Request) → τ → Act σ (R.Reply r × τ)) :
    Behaviour σ R α → τ → Act σ α
  | result a, _ => pure a
  | .fail f, _ => Act.fail f
  | read next, m => do (next (← MonadState.get).user).run services reply m
  | write u next, m => do
    modifyThe (Session σ) fun s => { s with user := u }
    next.run services reply m
  | .get typeName next, m => do
    (next (← (services.get typeName).attempt)).run services reply m
  | invoke h caller method args next, m => do
    (next (← (services.invoke h caller method args).attempt)).run services reply m
  | ask r next, m => do
    let (a, m) ← reply r m
    (next a).run services reply m

-- Runs code that puts no requests.
def runPlain (services : Services σ) (b : Action σ α) : Act σ α :=
  b.run services (fun r _ => Empty.elim r) ()

end Behaviour
end Interpose
