import Interpose.Value

namespace Interpose

-- The requests that code may put, and the type of the answer to each.
structure Requests where
  Request : Type
  Reply : Request → Type

def Requests.none : Requests := ⟨Empty, nofun⟩

-- What the code of components and advices does, as far as the container can tell: it reads and
-- writes a state of its own, asks the container for components, calls methods on handles, and puts
-- requests that depend on where it runs.
inductive Behaviour (σ : Type) (R : Requests) (α : Type) : Type where
  | result (a : α)
  | fail (f : Failure)
  | read (next : σ → Behaviour σ R α)
  | write (s : σ) (next : Behaviour σ R α)
  -- Asks the container for a component.
  | get (typeName : String) (next : Except Failure Handle → Behaviour σ R α)
  -- Calls a method on a handle, from a type if the caller says so.
  | invoke (h : Handle) (caller : Option String) (method : String) (args : List Value)
      (next : Except Failure Value → Behaviour σ R α)
  | ask (r : R.Request) (next : R.Reply r → Behaviour σ R α)

namespace Behaviour

variable {σ : Type} {R : Requests} {α β : Type}

def bind : Behaviour σ R α → (α → Behaviour σ R β) → Behaviour σ R β
  | result a, k => k a
  | fail f, _ => fail f
  | read next, k => read fun s => (next s).bind k
  | write s next, k => write s (next.bind k)
  | get typeName next, k => get typeName fun r => (next r).bind k
  | invoke h caller method args next, k => invoke h caller method args fun r => (next r).bind k
  | ask r next, k => ask r fun a => (next a).bind k

instance : Monad (Behaviour σ R) where
  pure := result
  bind := bind

theorem bind_result (x : Behaviour σ R α) : x.bind result = x := by
  induction x
  case result => rfl
  case fail   => rfl
  all_goals simp only [bind, *]

theorem bind_bind {γ : Type} (x : Behaviour σ R α) (k : α → Behaviour σ R β)
    (l : β → Behaviour σ R γ) : (x.bind k).bind l = x.bind fun a => (k a).bind l := by
  induction x
  case result => rfl
  case fail   => rfl
  all_goals simp only [bind, *]

instance : LawfulMonad (Behaviour σ R) :=
  .mk' _ bind_result (fun _ _ => rfl) bind_bind

def state : Behaviour σ R σ := read result

def modify (f : σ → σ) : Behaviour σ R Unit := read fun s => write (f s) (result ())

def ofExcept : Except Failure α → Behaviour σ R α
  | .ok a => result a
  | .error f => fail f

def raise (e : ContainerError) : Behaviour σ R α := fail (.container e)

-- Goes on only if the container has no objection.
def check : Except ContainerError α → Behaviour σ R α
  | .ok a => result a
  | .error e => raise e

def call (h : Handle) (caller : Option String) (method : String) (args : List Value) :
    Behaviour σ R Value :=
  invoke h caller method args ofExcept

def request (r : R.Request) : Behaviour σ R (R.Reply r) := ask r result

end Behaviour

-- Code outside of any join point.
abbrev Action (σ : Type) := Behaviour σ .none

-- The code of a method: it takes the instance that the method is called on and the arguments.
abbrev MethodCode (σ : Type) := Value → List Value → Action σ Value

-- The code that makes an instance from the values of its fields.
abbrev AllocationCode (σ : Type) := Wiring → Action σ Value

abbrev InitializationCode (σ : Type) := Value → Action σ Unit

structure Provider (σ : Type) where
  typeName : String
  supply : Action σ Value

-- Where providers are looked up by types.
abbrev Providers (σ : Type) := String → Except ContainerError (Provider σ)

end Interpose
