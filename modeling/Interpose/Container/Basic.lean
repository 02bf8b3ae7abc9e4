import Interpose.Component.Registry
import Interpose.Container.Session

namespace Interpose

-- How instances are made, and how the methods of handles with a proxy are reached.
structure Construction (σ : Type) where
  instantiate : Services σ → Providers σ → Definition σ → Act σ Handle
  dispatch : Services σ → Handle → Option String → String → List Value → Act σ Value

structure Container (σ : Type) where
  registry : Registry σ
  types : Hierarchy
  -- Nothing can be made before this is known.
  construction : Option (Construction σ)
  -- The components of handles that come from elsewhere.
  outside : String → Definition σ

def Provider.get {σ : Type} (services : Services σ) (p : Provider σ) : Act σ Value :=
  p.supply.runPlain services

def Providers.get {σ : Type} (services : Services σ) (ps : Providers σ) (typeName : String) :
    Act σ Value := do
  (← Act.check (ps typeName)).get services

namespace Definition

variable {σ : Type}

-- Fills the fields of a component in order of declaration.
def wire (services : Services σ) (providers : Providers σ) (d : Definition σ) : Act σ Wiring :=
  d.type.injectedFields.foldlM (fun w f => do
    return w.insert f.name (← providers.get services f.fieldType)) .empty

def instantiate (services : Services σ) (providers : Providers σ) (d : Definition σ) :
    Act σ Handle := do
  let wiring ← d.wire services providers
  let target ← (d.allocator wiring).runPlain services
  match d.initializer with
  | some init => (init target).runPlain services
  | none => pure ()
  Act.newHandle d.name target .direct

end Definition

-- Makes every instance as its definition says.
def Construction.plain {σ : Type} : Construction σ where
  instantiate services providers d := d.instantiate services providers
  dispatch _ h _ method _ := Act.raise (.methodNotFound h.typeName method)

namespace Container

variable {σ : Type}

def plain (registry : Registry σ) (outside : String → Definition σ) : Container σ where
  registry := registry
  types := registry.hierarchy
  construction := some .plain
  outside := outside

def isInitialized (c : Container σ) : Bool := c.construction.isSome

def resolve (c : Container σ) (typeName : String) : Except ContainerError (Definition σ) :=
  c.registry.resolve c.types typeName

def componentFor (c : Container σ) (typeName : String) : Except ContainerError String :=
  (c.resolve typeName).map (·.name)

def provider (name : String) : Provider σ where
  typeName := name
  supply := .get name fun r => (Behaviour.ofExcept r).bind fun h => .result h.toValue

def providers (c : Container σ) : Providers σ := fun typeName =>
  (c.componentFor typeName).map provider

def create (c : Container σ) (services : Services σ) (d : Definition σ) : Act σ Handle :=
  match c.construction with
  | some i => (i.instantiate services c.providers d).whileCreating d.name
  | none => Act.raise .constructionMissing

section Finding

-- Whatever a step does besides, what the container itself does about it is the same.
variable {m : Type → Type} [Monad m] [MonadState (Session σ) m] [MonadExcept Halt m]

-- Runs a step that creates a component, unless that is going on already.
@[specialize]
def tracked [MonadFinally m] (name : String) (x : m Handle) : m Handle := do
  let s ← MonadState.get
  match s.creating.start name with
  | .ok chain =>
    MonadState.set { s with creating := chain }
    try x
    finally modify fun s => { s with creating := s.creating.finish name }
  | .error cycle => throw (.failed (.container (.circularDependency cycle)))

-- The shared instance of a component, if it is a singleton and there.
def shared? (d : Definition σ) (s : Session σ) : Option Handle :=
  match d.scope with
  | .singleton => s.cells.lookup d.name
  | .prototype => none

-- Looks a component up. It is made unless it is shared and there.
@[specialize]
def find [MonadFinally m] (c : Container σ) (making : Definition σ → m Handle)
    (typeName : String) : m Handle := do
  match c.resolve typeName with
  | .ok d =>
    match shared? d (← MonadState.get) with
    | some h => return h
    | none => tracked d.name (making d)
  | .error e => throw (.failed (.container e))

-- A new instance of a singleton goes into its cell.
@[specialize]
def keeping (d : Definition σ) (x : m Handle) : m Handle :=
  match d.scope with
  | .singleton => do
    let h ← x
    modify fun s => { s with cells := (d.name, h) :: s.cells }
    return h
  | .prototype => x

-- Does something with a container, as long as it is there.
@[specialize]
def whileAlive (x : m Handle) : m Handle := do
  if (← MonadState.get).dropped then throw (.failed (.container .containerDropped)) else x

end Finding

-- Makes a new instance.
def make (c : Container σ) (services : Services σ) (d : Definition σ) : Act σ Handle :=
  keeping d (c.create services d)

def get (c : Container σ) (services : Services σ) (typeName : String) : Act σ Handle :=
  c.find (c.make services) typeName

def invoke (c : Container σ) (services : Services σ) (h : Handle) (caller : Option String)
    (method : String) (args : List Value) : Act σ Value :=
  match h.route with
  | .direct =>
    match c.registry.get? h.typeName with
    | some d => (d.dispatch h.target method args).runPlain services
    | none => Act.raise (.componentNotFound h.typeName)
  | .woven =>
    match c.construction with
    | some i => i.dispatch services h caller method args
    | none => Act.raise .constructionMissing
  | .outside => ((c.outside h.typeName).dispatch h.target method args).runPlain services

def getWhileAlive (c : Container σ) (services : Services σ) (typeName : String) : Act σ Handle :=
  whileAlive (c.get services typeName)

-- What the container does for code, with room for calls so many levels deep.
def services (c : Container σ) : Nat → Services σ
  | 0 => { get := fun _ => throw .exhausted, invoke := fun _ _ _ _ => throw .exhausted }
  | depth + 1 =>
    let inner := c.services depth
    { get := c.getWhileAlive inner, invoke := c.invoke inner }

-- The names of the singletons that are made in advance, in order of registration.
def eager (c : Container σ) : List String :=
  (c.registry.definitions.filter fun d => d.scope == .singleton && !d.lazy).map (·.name)

-- Makes all singletons that are not lazy; the first failure ends it.
def makeEager (c : Container σ) (services : Services σ) : Act σ Unit :=
  c.eager.forM fun name => do discard (c.get services name)

def inspect (c : Container σ) : String :=
  Text.record "Container" [
    ("components", toString c.registry.size), ("initialized", toString c.isInitialized)]

end Container
end Interpose
