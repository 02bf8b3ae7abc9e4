import Interpose.Source.Attribute
import Interpose.Source.TypeExpr

namespace Interpose.Source

structure Field where
  attributes : List Attribute
  name : String
  type : TypeExpr
  deriving Repr

inductive Shape where
  | named (fields : List Field)
  -- Fields without names.
  | positional
  -- Alternatives or fields that share their place.
  | alternatives
  deriving Repr

structure TypeItem where
  attributes : List Attribute
  name : String
  generic : Bool
  shape : Shape
  deriving Repr

inductive Argument where
  -- The instance itself, perhaps by reference and perhaps to be changed.
  | receiver (reference changing : Bool) (tokens : List Token)
  | typed (pattern : List Token) (type : TypeExpr)
  deriving Repr

namespace Argument

def tokens : Argument → List Token
  | receiver _ _ tokens => tokens
  | typed pattern type => pattern ++ .mark ":" :: type.tokens

-- The argument with further tokens in front of it.
def behind (tokens : List Token) : Argument → Argument
  | receiver reference changing own => receiver reference changing (tokens ++ own)
  | typed pattern type => typed (tokens ++ pattern) type

-- The instance by a plain reference.
def isSharedReceiver : Argument → Bool
  | receiver reference changing _ => reference && !changing
  | typed _ _ => false

def type? : Argument → Option TypeExpr
  | receiver _ _ _ => none
  | typed _ type => some type

end Argument

structure Function where
  attributes : List Attribute
  visibility : List Token
  -- The words in front of the one for functions.
  manner : List Token
  name : String
  -- Empty for a function without parameters of types.
  generics : List Token
  -- The arguments, each with whether a comma follows it.
  arguments : List (Argument × Bool)
  output : Option TypeExpr
  -- What the parameters of types have to meet.
  conditions : List Token
  body : List Token
  deriving Repr

namespace Function

def isPublic (f : Function) : Bool := f.visibility == [.word "pub"]

def isAsynchronous (f : Function) : Bool := f.manner.contains (.word "async")

def tokens (f : Function) : List Token :=
  let arguments := f.arguments.flatMap fun a =>
    a.1.tokens ++ (if a.2 then [.mark ","] else [])
  let output := match f.output with
    | some type => .mark "->" :: type.tokens
    | none => []
  f.attributes.flatMap Attribute.tokens ++ f.visibility ++ f.manner ++
    .word "fn" :: .word f.name :: f.generics ++
    .opening .paren :: arguments ++ .closing .paren :: output ++ f.conditions ++ f.body

-- The first argument is the instance by a plain reference.
def hasSharedReceiver (f : Function) : Bool :=
  f.arguments.head?.any (·.1.isSharedReceiver)

end Function

inductive Member where
  | function (f : Function)
  | other (tokens : List Token)
  deriving Repr

namespace Member

def tokens : Member → List Token
  | function f => f.tokens
  | other tokens => tokens

def function? : Member → Option Function
  | function f => some f
  | other _ => none

end Member

structure Block where
  generic : Bool
  -- The members are those that a trait asks for.
  ofTrait : Bool
  type : TypeExpr
  conditions : List Token
  members : List Member
  deriving Repr

namespace Block

def functions (b : Block) : List Function := b.members.filterMap Member.function?

-- A block that is neither generic nor of a trait, as it is written.
def text (b : Block) : String :=
  spell (.word "impl" :: b.type.tokens ++ b.conditions ++
    .opening .brace :: b.members.flatMap Member.tokens ++ [.closing .brace])

end Block
end Interpose.Source
