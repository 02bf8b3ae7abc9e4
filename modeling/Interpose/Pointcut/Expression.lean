import Interpose.Pointcut.MemberPattern

namespace Interpose.Pointcut

-- What a pointcut speaks of: the execution of methods or the injection of fields.
inductive Domain where
  | execution
  | autowire
  deriving DecidableEq, Repr

def Domain.text : Domain → String
  | execution => "execution"
  | autowire => "autowire"

inductive Designator where
  -- Methods of a shape.
  | execution (pattern : MethodPattern)
  -- Fields of a shape.
  | autowire (pattern : FieldPattern)
  -- Calls that come from a type.
  | within (pattern : TypePattern)
  -- Calls that come from a type with an annotation.
  | annotatedWithin (pattern : TypePattern)
  -- Methods with an annotation.
  | annotatedExecution (pattern : TypePattern)
  -- Fields with an annotation.
  | annotatedAutowire (pattern : TypePattern)
  -- Members of a type.
  | target (pattern : TypePattern)
  -- Members of a type with an annotation.
  | annotatedTarget (pattern : TypePattern)
  deriving DecidableEq, Repr

namespace Designator

-- The domain of a designator. Members of types are of either.
def domain? : Designator → Option Domain
  | execution _ | within _ | annotatedWithin _ | annotatedExecution _ => some .execution
  | autowire _ | annotatedAutowire _ => some .autowire
  | target _ | annotatedTarget _ => none

def text : Designator → String
  | execution p => "execution(" ++ p.text ++ ")"
  | autowire p => "autowire(" ++ p.text ++ ")"
  | within p => "within(" ++ p.text ++ ")"
  | annotatedWithin p => "@within(" ++ p.text ++ ")"
  | annotatedExecution p => "@execution(" ++ p.text ++ ")"
  | annotatedAutowire p => "@autowire(" ++ p.text ++ ")"
  | target p => "target(" ++ p.text ++ ")"
  | annotatedTarget p => "@target(" ++ p.text ++ ")"

end Designator

inductive Expression where
  | leaf (d : Designator)
  | and (left right : Expression) (position : Nat)
  | or (left right : Expression) (position : Nat)
  | not (e : Expression)
  deriving DecidableEq, Repr

namespace Expression

-- The alternatives at the top of an expression, from left to right.
def branches : Expression → List Expression
  | or left right _ => left.branches ++ right.branches
  | e => [e]

def leaves : Expression → List Designator
  | leaf d => [d]
  | and left right _ | or left right _ => left.leaves ++ right.leaves
  | not e => e.leaves

-- The one domain of an expression, none if it only names members of types; or the position of the
-- operator that joins both domains.
def domain? : Expression → Except Nat (Option Domain)
  | leaf d => .ok d.domain?
  | not e => e.domain?
  | and left right position | or left right position => do
    match ← left.domain?, ← right.domain? with
    | none, d => .ok d
    | some a, none => .ok (some a)
    | some a, some b => if a = b then .ok (some a) else .error position

end Expression
end Interpose.Pointcut
