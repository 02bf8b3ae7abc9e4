import Interpose.Weaving.Chain
import Interpose.Weaving.Layer

namespace Interpose

inductive Passage (σ : Type) where
  | direct (body : MethodCode σ)
  | woven (chain : MethodChain σ)

def Passage.isWoven {σ : Type} : Passage σ → Bool
  | direct _ => false
  | woven _ => true

-- What stands for a component: a passage for each method, and the chains for allocation,
-- initialization and fields.
structure Proxy (σ : Type) where
  definition : Definition σ
  passages : List (String × Passage σ)
  newChain : Option (MethodChain σ)
  initChain : Option (MethodChain σ)
  wireChains : List (String × AutowireChain σ)

namespace Proxy

variable {σ : Type}

def name (p : Proxy σ) : String := p.definition.name

def isWoven (p : Proxy σ) (method : String) : Bool :=
  (p.passages.lookup method).any (·.isWoven)

def weavesAllocation (p : Proxy σ) : Bool := p.newChain.isSome

def weavesInitialization (p : Proxy σ) : Bool := p.initChain.isSome

def weavesFields (p : Proxy σ) : Bool := !p.wireChains.isEmpty

def injectionChain? (p : Proxy σ) (field : String) : Option (AutowireChain σ) :=
  p.wireChains.lookup field

-- The value of a field: through its advices if it has any.
def fieldValue (services : Services σ) (providers : Providers σ) (p : Proxy σ) (f : Field) :
    Act σ Value :=
  match p.injectionChain? f.name with
  | some chain => chain.resolve services
  | none => providers.get services f.fieldType

def wire (services : Services σ) (providers : Providers σ) (p : Proxy σ) : Act σ Wiring :=
  p.definition.type.injectedFields.foldlM (fun w f => do
    return w.insert f.name (← p.fieldValue services providers f)) .empty

def allocate (services : Services σ) (p : Proxy σ) (w : Wiring) : Act σ Value :=
  match p.newChain with
  | some chain => chain.invoke services ⟨none, none, [w.toValue]⟩
  | none => (p.definition.allocator w).runPlain services

-- Runs the initialization of an instance, if there is one.
def prepare (services : Services σ) (p : Proxy σ) (target : Value) : Act σ Unit :=
  match p.initChain, p.definition.initializer with
  | some chain, _ => do discard (chain.invoke services ⟨none, some target, []⟩)
  | none, some init => (init target).runPlain services
  | none, none => pure ()

-- Fills the fields, allocates and initializes, each through its advices.
def instantiate (services : Services σ) (providers : Providers σ) (p : Proxy σ) :
    Act σ Handle := do
  let wiring ← p.wire services providers
  let target ← p.allocate services wiring
  p.prepare services target
  Act.newHandle p.name target .woven

def dispatch (services : Services σ) (p : Proxy σ) (caller : Option String) (target : Value)
    (method : String) (args : List Value) : Act σ Value :=
  match p.passages.lookup method with
  | some (.direct body) => (body target args).runPlain services
  | some (.woven chain) => chain.invoke services ⟨caller, some target, args⟩
  | none => Act.raise (.methodNotFound p.name method)

def inspect (p : Proxy σ) : String :=
  let woven := (p.passages.filter (·.2.isWoven)).map (·.1)
  Text.record "ComponentProxy" [
    ("component", Text.quoted p.name),
    ("woven", Text.bracketed ((woven.mergeSort fun a b => decide (a ≤ b)).map Text.quoted)),
    ("new", toString p.weavesAllocation), ("init", toString p.weavesInitialization),
    ("wired", toString p.wireChains.length)]

-- The passage to a method that has code.
def passage? (l : Layer σ) (d : Definition σ) (j : MethodJoint) :
    Option (String × Passage σ) := do
  if j.method.kind != .method then none
  let body ← d.body? j.name
  match l.onMethod j with
  | some advisors => some (j.name, .woven ⟨j, l.types, .method body, advisors⟩)
  | none => some (j.name, .direct body)

-- The chain around the allocation, if a method of the type is one and has advices.
def newChain? (l : Layer σ) (d : Definition σ) (j : MethodJoint) : Option (MethodChain σ) := do
  if j.method.kind != .allocation then none
  return ⟨j, l.types, .allocation d.allocator, ← l.onMethod j⟩

-- The chain around the initialization, if a method of the type is one and has advices.
def initChain? (l : Layer σ) (d : Definition σ) (j : MethodJoint) : Option (MethodChain σ) := do
  if j.method.kind != .initialization then none
  return ⟨j, l.types, .initialization (← d.initializer), ← l.onMethod j⟩

-- The provider for a field with advices. The advices may do without a component.
def fieldProvider (providers : Providers σ) (typeName : String) :
    Except ContainerError (Option (Provider σ)) :=
  match providers typeName with
  | .ok p => .ok (some p)
  | .error (.componentNotFound _) => .ok none
  | .error e => .error e

def injectionChain (l : Layer σ) (providers : Providers σ) (j : FieldJoint) :
    Except ContainerError (Option (String × AutowireChain σ)) :=
  match l.onField j with
  | none => .ok none
  | some advisors => do
    let provider ← fieldProvider providers j.field.fieldType
    return some (j.name, ⟨j, provider, advisors⟩)

def ofDefinition (l : Layer σ) (providers : Providers σ) (d : Definition σ) :
    Except ContainerError (Proxy σ) :=
  match l.types.get? d.name with
  | none => .error (.componentNotFound d.name)
  | some t => do
    let chains ← t.fieldJoints.mapM (injectionChain l providers)
    return {
      definition := d
      passages := t.methodJoints.filterMap (passage? l d)
      newChain := (t.methodJoints.filterMap (newChain? l d)).getLast?
      initChain := (t.methodJoints.filterMap (initChain? l d)).getLast?
      wireChains := chains.filterMap id }

end Proxy

-- The proxies of the components that have advices.
structure Proxies (σ : Type) where
  proxies : List (Proxy σ)

namespace Proxies

variable {σ : Type}

def get? (t : Proxies σ) (name : String) : Option (Proxy σ) :=
  t.proxies.find? (·.name == name)

def size (t : Proxies σ) : Nat := t.proxies.length

def isEmpty (t : Proxies σ) : Bool := t.proxies.isEmpty

def ofLayer (l : Layer σ) (r : Registry σ) (providers : Providers σ) :
    Except ContainerError (Proxies σ) := do
  let proxies ← (r.definitions.filter fun d => l.hasProxy d.name).mapM
    (Proxy.ofDefinition l providers)
  return ⟨proxies⟩

def instantiate (t : Proxies σ) (services : Services σ) (providers : Providers σ)
    (d : Definition σ) : Act σ Handle :=
  match t.get? d.name with
  | some p => p.instantiate services providers
  | none => d.instantiate services providers

-- The construction that goes by the proxies.
def construction (t : Proxies σ) : Construction σ where
  instantiate := t.instantiate
  dispatch services h caller method args :=
    match t.get? h.typeName with
    | some p => p.dispatch services caller h.target method args
    | none => Act.raise (.methodNotFound h.typeName method)

end Proxies
end Interpose
