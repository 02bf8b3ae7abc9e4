import Interpose.Component.Definition
import Interpose.Script.Stage

namespace Interpose.Script

-- What a scripted method does once it has logged its call.
inductive Deed where
  | unit
  | const (v : Value)
  -- Gives back the first argument.
  | echo
  -- Puts a text before the first argument.
  | prepend (text : String)
  -- Adds up the arguments.
  | sum
  -- Counts the calls.
  | count
  | fail (message : String)
  -- Fails a number of times before it counts the calls.
  | flaky (times : Nat)
  -- Gives the value that was kept for a field.
  | text (field : String)
  | object (field : String)
  | handle (field : String)
  -- Passes the arguments on to a method of the component in a field.
  | call (field : String) (caller : Option String) (method : String)

structure Body where
  deed : Deed
  -- The method wants a text for its instance.
  onText : Bool

variable {R : Requests}

def missingArgument : Failure := .user "missing argument 0"

def firstOf : List Value → Except Failure Value
  | v :: _ => .ok v
  | [] => .error missingArgument

def keptHandle (i : Instance) (field : String) : Behaviour Stage R Handle := do
  match (← Behaviour.memory i).handles.lookup field with
  | some h => return h
  | none => .fail (.user "no such ref")

-- Counts the call, and fails if too few have been made.
def attempt (i : Instance) (times : Nat) : Behaviour Stage R Value := do
  let n ← Behaviour.countUp i
  if n ≤ times then .fail (.user ("attempt " ++ toString n ++ " failed"))
  else return .int (.ofNat n)

def Deed.run (i : Instance) (args : List Value) : Deed → Behaviour Stage R Value
  | unit => return .unit
  | const v => Behaviour.written v
  | echo => .ofExcept (firstOf args)
  | prepend s => do
    let v ← .ofExcept (firstOf args)
    return .text (s ++ (← .check (Kind.text.cast v)))
  | sum => do
    let numbers ← args.mapM fun v => Behaviour.check (Kind.int.cast v)
    return .int (numbers.foldl (· + ·) 0)
  | count => return .int (.ofNat (← Behaviour.countUp i))
  | fail message => .fail (.user message)
  | flaky times => attempt i times
  | text field => do
    match (← Behaviour.memory i).texts.lookup field with
    | some s => return .text s
    | none => .fail (.user "no such string")
  | object field => do
    match (← Behaviour.memory i).objects.lookup field with
    | some o => return .text o.shown
    | none => .fail (.user "no such raw")
  | handle field => do return (← keptHandle i field).toValue
  | call field caller method => do
    Behaviour.call (← keptHandle i field) caller method args

def Deed.perform (d : Deed) (method : String) (i : Instance) (args : List Value) :
    Behaviour Stage R Value := do
  Behaviour.log ("body " ++ i.shown ++ "." ++ method ++ "(" ++ renderAll ", " args ++ ")")
  d.run i args

-- How a scripted component is allocated: the fields whose values it keeps, by how it asks for them.
structure Allocation where
  failure : Option String
  handles : List String
  texts : List String
  objects : List String

def keepAll {α : Type} (fields : List String) (get : String → Except ContainerError α) :
    Behaviour Stage R (List (String × α)) :=
  fields.mapM fun f => do return (f, ← .check (get f))

def Allocation.run (a : Allocation) (kind name : String) (w : Wiring) : Action Stage Value := do
  let i ← Behaviour.newLabelled kind name
  Behaviour.log ("new " ++ i.shown ++ " wired " ++ toString w.size)
  if let some message := a.failure then Behaviour.fail (.user message)
  let handles ← keepAll a.handles w.component
  let texts ← keepAll a.texts (w.get .text)
  let objects ← keepAll a.objects (w.get (.instanceOf kind))
  Behaviour.remember i { Memory.blank with handles, texts, objects }
  return .object i

structure Initialization where
  failure : Option String

def Initialization.run (a : Initialization) (i : Instance) : Action Stage Unit := do
  Behaviour.log ("init " ++ i.shown)
  if let some message := a.failure then Behaviour.fail (.user message)

structure Component where
  -- The type without its members.
  type : TypeDescription
  methods : List (Method × Option Body)
  fields : List Field
  allocation : Allocation
  initialization : Option Initialization
  scope : Option Scope
  lazy : Option Bool
  -- The name of an instance that is there already.
  existing : Option String

def addMethod (kind : String) (d : Definition Stage) (e : Method × Option Body) :
    Definition Stage :=
  match e.2 with
  | none => d.describeMethod e.1
  | some body =>
    if body.onText then d.addMethod e.1 .text fun _ _ => return .unit
    else d.addMethod e.1 (.instanceOf kind) fun i args => body.deed.perform e.1.name i args

-- The definition of a scripted component, whose instances are of the given kind. An instance that
-- is there already takes its number now.
def Component.define (c : Component) (kind : String) : StateM Stage (Definition Stage) := do
  let base ←
    match c.existing with
    | none => pure (Definition.make c.type (c.allocation.run kind c.type.name))
    | some name => do
      let (i, s) := (← get).newLabelled kind name
      set s
      pure (Definition.ofInstance c.type (.object i))
  let d := c.fields.foldl Definition.addField (c.methods.foldl (addMethod kind) base)
  let d :=
    match c.initialization with
    | some init => d.setInit (.instanceOf kind) init.run
    | none => d
  let d := (c.scope.map d.setScope).getD d
  return (c.lazy.map d.setLazy).getD d

-- The value of a handle from outside of the container; its component answers one method.
def stub (kind typeName : String) : Value :=
  .handle typeName (.object ⟨kind, some ⟨typeName, 0⟩, 0⟩) .outside 0

def stubDefinition (typeName : String) : Definition Stage :=
  (Definition.make (.plain typeName) fun _ => return .unit).addBody (.plain "find")
    fun _ args => return .text (typeName ++ ":" ++ renderAll "," args)

end Interpose.Script
