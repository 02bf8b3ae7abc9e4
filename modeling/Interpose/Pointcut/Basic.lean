import Interpose.Pointcut.Expression

namespace Interpose

-- A predicate on join points.
open Pointcut in
inductive Pointcut where
  | leaf (domain : Domain) (designator : Designator)
  | and (domain : Domain) (left right : Pointcut)
  | or (domain : Domain) (left right : Pointcut)
  | not (domain : Domain) (p : Pointcut)
  -- Its two sides apply to methods and to fields.
  | divergent (execution autowire : Pointcut)
  deriving DecidableEq, Repr

namespace Pointcut

def isExecution : Pointcut → Bool
  | leaf d _ | and d _ _ | or d _ _ | not d _ => d == .execution
  | divergent _ _ => true

def isAutowire : Pointcut → Bool
  | leaf d _ | and d _ _ | or d _ _ | not d _ => d == .autowire
  | divergent _ _ => true

def crossesDomains : Pointcut → Bool
  | divergent _ _ => true
  | _ => false

-- Some calls of a method are matched and others not, depending on where they come from.
def watchesCaller : Pointcut → Bool
  | leaf _ (.within p) | leaf _ (.annotatedWithin p) => !p.isTrivial
  | leaf _ _ => false
  | and _ l r | or _ l r => l.watchesCaller || r.watchesCaller
  | not _ p => p.watchesCaller
  | divergent e _ => e.watchesCaller

-- Both speak of the same single domain.
def sharesDomain (p q : Pointcut) : Bool :=
  !p.crossesDomains && !q.crossesDomains && p.isExecution == q.isExecution &&
    p.isAutowire == q.isAutowire

def text : Pointcut → String
  | leaf _ d => d.text
  | and _ l r => "(" ++ l.text ++ " && " ++ r.text ++ ")"
  | or _ l r => "(" ++ l.text ++ " || " ++ r.text ++ ")"
  | not _ p => "!" ++ p.text
  | divergent e w => e.text ++ " || " ++ w.text

inductive Operation where
  | and | or | not | acrossDomains
  deriving DecidableEq, Repr

def Operation.text : Operation → String
  | and => "AND"
  | or => "OR"
  | not => "NOT"
  | acrossDomains => "divergent OR"

-- Executions and injected fields are mixed.
inductive Crosscut where
  -- The operator at a position of an expression joins both domains.
  | mixed (expression : String) (position : Nat)
  -- An operation within a domain meets a pointcut that is not of this domain alone.
  | foreign (operation : Operation) (domain : Domain) (found : Pointcut)
  -- A divergent pointcut is one of several that are to be merged.
  | company (p : Pointcut)
  -- Two pointcuts that are to be merged are not of one domain.
  | apart (left right : Pointcut)
  deriving DecidableEq, Repr

def Crosscut.message : Crosscut → String
  | mixed expression position =>
    "'" ++ expression ++ "' mixes execution and autowire designators at position " ++
      toString position
  | foreign operation domain found =>
    operation.text ++ " requires " ++ domain.text ++ " pointcuts, got '" ++ found.text ++ "'"
  | company p =>
    "divergent pointcut '" ++ p.text ++ "' must be the only expression of its advice"
  | apart left right =>
    "'" ++ left.text ++ "' and '" ++ right.text ++ "' belong to different domains"

-- Speaks of one domain and not of the other.
def isOnly (p : Pointcut) : Domain → Bool
  | .execution => p.isExecution && !p.isAutowire && !p.crossesDomains
  | .autowire => p.isAutowire && !p.isExecution && !p.crossesDomains

def require (operation : Operation) (domain : Domain) (p : Pointcut) : Except Crosscut Unit :=
  if p.isOnly domain then .ok () else .error (.foreign operation domain p)

def conj (domain : Domain) (p q : Pointcut) : Except Crosscut Pointcut := do
  require .and domain p
  require .and domain q
  return and domain p q

def disj (domain : Domain) (p q : Pointcut) : Except Crosscut Pointcut := do
  require .or domain p
  require .or domain q
  return or domain p q

def negate (domain : Domain) (p : Pointcut) : Except Crosscut Pointcut := do
  require .not domain p
  return not domain p

def acrossDomains (e w : Pointcut) : Except Crosscut Pointcut := do
  require .acrossDomains .execution e
  require .acrossDomains .autowire w
  return divergent e w

-- Matches what one of two pointcuts matches that are both of the same single domain.
def merge (p q : Pointcut) : Except Crosscut Pointcut :=
  if p.crossesDomains then .error (.company p)
  else if q.crossesDomains then .error (.company q)
  else if !p.sharesDomain q then .error (.apart p q)
  else disj (if p.isExecution then .execution else .autowire) p q

-- A designator as a pointcut. One that is of either domain takes the given domain.
def ofDesignator (domain : Domain) (d : Designator) : Pointcut := leaf (d.domain?.getD domain) d

end Pointcut
end Interpose
