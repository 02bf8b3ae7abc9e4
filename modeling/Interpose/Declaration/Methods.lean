import Interpose.Declaration.Component

namespace Interpose.Declaration

open Source

-- How an argument is passed on.
inductive Passing where
  -- The shared value itself.
  | shared (inner : TypeExpr)
  -- A copy of the value.
  | owned (type : TypeExpr)
  deriving Repr

namespace Passing

-- The type that the value is taken out as.
def type : Passing → TypeExpr
  | shared inner => inner
  | owned type => type

def label (p : Passing) : String := p.type.label

end Passing

-- What becomes of the result of a function.
inductive Outcome where
  | nothing
  -- The result is a value already.
  | asValue
  | typed (type : TypeExpr)
  deriving Repr

def Outcome.label : Outcome → String
  | nothing => unitTypeName
  | asValue => valueTypeName
  | typed type => type.label

-- Takes the value at a place out of the list, as a type, and binds it to a name.
structure Binding where
  name : Nat
  passing : Passing
  place : Nat
  deriving Repr

-- What the arguments of a function come to, one after the other.
structure Signature where
  -- The labels of the described parameters.
  labels : List String
  bindings : List Binding
  -- The names that the function is called with.
  arguments : List Nat
  deriving Repr

structure DeclaredMethod where
  name : String
  isPublic : Bool
  signature : Signature
  outcome : Outcome
  -- A failure of the function is the failure of the method.
  fallible : Bool
  deriving Repr

structure DeclaredMethods where
  block : Block
  methods : List DeclaredMethod
  deriving Repr

def passingOf (type : TypeExpr) : Result Passing :=
  match type.sharedInner with
  | some inner => .ok (.shared inner)
  | none => if type.isReference then .error .referenceParameter else .ok (.owned type)

def outcomeOf : Option TypeExpr → Outcome
  | none => .nothing
  | some type =>
    if type.isUnit then .nothing else if type.isNamed "Value" then .asValue else .typed type

namespace Signature

def empty : Signature := ⟨[], [], []⟩

def push (s : Signature) (place : Nat) (p : Passing) : Signature where
  labels := s.labels ++ [p.label]
  bindings := s.bindings ++ [⟨place, p, place⟩]
  arguments := s.arguments ++ [place]

-- Goes on with the argument at a place. Without a type it is not passed on.
def next (s : Signature) (a : (Argument × Bool) × Nat) : Result Signature :=
  match a.1.1.type? with
  | some type => do return s.push a.2 (← passingOf type)
  | none => .ok s

def ofArguments (arguments : List (Argument × Bool)) : Result Signature :=
  arguments.zipIdx.foldlM next .empty

def arity (s : Signature) : Nat := s.arguments.length

end Signature

def DeclaredMethod.ofFunction (f : Function) : Result DeclaredMethod := do
  if f.isAsynchronous then throw .asynchronousMethod
  if !f.generics.isEmpty then throw .genericMethod
  let signature ← Signature.ofArguments (f.arguments.drop 1)
  let inner := f.output.bind TypeExpr.successType
  return {
    name := f.name, isPublic := f.isPublic, signature
    outcome := outcomeOf (inner.or f.output), fallible := inner.isSome }

-- Names of functions that never become methods.
def isReserved (name : String) : Bool := name == allocationName || name == initializationName

def isDeclared (f : Function) : Bool := f.hasSharedReceiver && !isReserved f.name

def DeclaredMethods.ofBlock (b : Block) : Result DeclaredMethods := do
  if b.ofTrait then throw .methodsOfTrait
  if b.generic then throw .genericBlock
  return { block := b, methods := ← (b.functions.filter isDeclared).mapM DeclaredMethod.ofFunction }

-- Why the code around a function does not call it.
inductive Stop where
  | miscounted (expected actual : Nat)
  | unconverted (e : ContainerError)
  -- So many values are too few for the place.
  | outside (size place : Nat)
  -- No value is bound to the name.
  | unbound (name : Nat)

def argumentName (n : Nat) : String := "arg" ++ toString n

-- It never comes to the last two.
def Stop.failure (method : String) : Stop → Failure
  | miscounted expected actual => .container (.argumentCount method expected actual)
  | unconverted e => .container e
  | outside size place =>
    .other ("index out of bounds: the len is " ++ toString size ++ " but the index is " ++
      toString place)
  | unbound name => .other ("cannot find value '" ++ argumentName name ++ "' in this scope")

section Run

-- Values may be converted and functions may be called with any effects.
variable {m : Type → Type} [Monad m] [MonadExcept Stop m] {β γ : Type}

def Binding.take (convert : TypeExpr → Value → m β) (args : List Value) (bound : List (Nat × β))
    (b : Binding) : m (List (Nat × β)) :=
  match args[b.place]? with
  | some v => do return (b.name, ← convert b.passing.type v) :: bound
  | none => throw (.outside args.length b.place)

def boundTo (bound : List (Nat × β)) (name : Nat) : m β :=
  match bound.lookup name with
  | some b => return b
  | none => throw (.unbound name)

-- Runs the code around a function on a list of values: first they are counted, then they are
-- converted and bound to names in order, and only then is the function called.
def Signature.run (convert : TypeExpr → Value → m β) (function : List β → m γ) (s : Signature)
    (args : List Value) : m γ :=
  if args.length ≠ s.arity then throw (.miscounted s.arity args.length)
  else do
    let bound ← s.bindings.foldlM (Binding.take convert args) []
    function (← s.arguments.mapM (boundTo bound))

end Run

namespace DeclaredMethod

def description (m : DeclaredMethod) : Method :=
  { Method.plain m.name with
    modifiers := .ofList [if m.isPublic then .pub else .priv]
    returnType := m.outcome.label
    params := m.signature.labels }

-- Calls the function of a method on a list of values.
def call {σ β : Type} (owner : String) (convert : TypeExpr → Value → Except ContainerError β)
    (function : List β → Action σ Value) (m : DeclaredMethod) (args : List Value) :
    Action σ Value := do
  let r ← (m.signature.run (fun type v => .mk <| pure ((convert type v).mapError .unconverted))
    (fun bs => .lift (function bs)) args : ExceptT Stop (Action σ) Value).run
  match r with
  | .ok v => return v
  | .error stop => .fail (stop.failure (owner ++ "." ++ m.name))

-- Adds the method to a component, whose functions want an instance of a kind.
def define {σ α β : Type} (convert : TypeExpr → Value → Except ContainerError β) (k : Kind α)
    (function : α → List β → Action σ Value) (m : DeclaredMethod) (d : Definition σ) :
    Definition σ :=
  d.addMethod m.description k fun this args => m.call d.name convert (function this) args

def countText (n : Nat) : String := toString n ++ "usize"

def bindingText (b : Binding) : String :=
  let name := argumentName b.name
  let taken := "::weft_core::utils::values::downcast_value::<" ++ b.passing.type.text ++
    ">(&args[" ++ countText b.place ++ "])?"
  match b.passing with
  | .shared _ => "let " ++ name ++ " = " ++ taken ++ ";"
  | .owned type =>
    "let " ++ name ++ ": " ++ type.text ++ " = ::core::clone::Clone::clone(&*" ++ taken ++ ",);"

def callText (m : DeclaredMethod) : String :=
  let arguments := ", ".intercalate (m.signature.arguments.map argumentName)
  let call := "this." ++ m.name ++ "(" ++ arguments ++ ")" ++ if m.fallible then "?" else ""
  match m.outcome with
  | .nothing =>
    call ++ "; ::core::result::Result::Ok(::weft_core::utils::values::unit())"
  | .asValue => "let result = " ++ call ++ "; ::core::result::Result::Ok(result)"
  | .typed _ =>
    "let result = " ++ call ++
      "; ::core::result::Result::Ok(::weft_core::utils::values::value(result))"

def outcomeText : Outcome → String
  | .nothing => "::weft_core::constants::UNIT_TYPE_NAME"
  | .asValue => "::weft_core::constants::VALUE_TYPE_NAME"
  | .typed type => Text.quoted type.label

def descriptionText (m : DeclaredMethod) : String :=
  "::weft_core::MethodDescriptor::new(" ++ Text.quoted m.name ++ ")" ++
    ".modifiers(::weft_core::Modifiers::" ++ (if m.isPublic then "PUBLIC" else "PRIVATE") ++ ")" ++
    ".returns(" ++ outcomeText m.outcome ++ ")" ++
    String.join (m.signature.labels.map fun l => ".param(" ++ Text.quoted l ++ ")")

def refusalText (owner : String) (m : DeclaredMethod) : String :=
  "return ::core::result::Result::Err(::weft_core::ContainerError::ArgumentCount " ++
    inBraces (
      "method: ::std::format!(\"\x7b\x7d.\x7b\x7d\", " ++ ownName owner ++ ", " ++
        Text.quoted m.name ++ ")," ++
      "expected: " ++ countText m.signature.arity ++ "," ++
      "actual: args.len(),") ++ ".into());"

def text (owner : String) (m : DeclaredMethod) : String :=
  ".with_method(" ++ m.descriptionText ++ ", |this: &" ++ owner ++
    ", args: &[::weft_core::Value]| " ++ inBraces (
      "if args.len() != " ++ countText m.signature.arity ++ inBraces (m.refusalText owner) ++
      String.join (m.signature.bindings.map bindingText) ++ m.callText) ++ ",)"

end DeclaredMethod

def DeclaredMethods.text (d : DeclaredMethods) : String :=
  let owner := d.block.type.text
  compact <|
    d.block.text ++ "impl " ++ owner ++ inBraces (
      "#[doc(hidden)] fn __weft_declare_methods(" ++
      "definition: ::weft_core::ComponentDefinition,) -> ::weft_core::ComponentDefinition " ++
      inBraces ("definition" ++ String.join (d.methods.map (DeclaredMethod.text owner)))) ++
    "::weft_core::inventory::submit! " ++ inBraces (
      "::weft_core::MethodRegistration " ++ inBraces (
        "component: " ++ ownName owner ++ "," ++
        "declare: <" ++ owner ++ ">::__weft_declare_methods,"))

def methodsText (source : String) : Result String := do
  return (← DeclaredMethods.ofBlock (← readable (Block.parse source))).text

end Interpose.Declaration
