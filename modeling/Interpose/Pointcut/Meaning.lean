import Interpose.Pointcut.Basic
import Interpose.Pointcut.Expression.Parser

namespace Interpose.Pointcut

-- Why a text is no pointcut.
inductive ReadError where
  | syntactic (e : SyntaxError)
  | crosscut (c : Crosscut)
  deriving DecidableEq, Repr

def ofExpression (domain : Domain) : Expression → Except Crosscut Pointcut
  | .leaf d => .ok (ofDesignator domain d)
  | .and l r _ => do conj domain (← ofExpression domain l) (← ofExpression domain r)
  | .or l r _ => do disj domain (← ofExpression domain l) (← ofExpression domain r)
  | .not e => do negate domain (← ofExpression domain e)

-- Alternatives of one domain, joined from the left; none if there are none.
def ofBranches (domain : Domain) : List Expression → Except Crosscut (Option Pointcut)
  | [] => .ok none
  | e :: es => do
    let first ← ofExpression domain e
    some <$> es.foldlM (fun p e => do disj domain p (← ofExpression domain e)) first

def classified (expression : String) (branches : List Expression) :
    Except Crosscut (List (Option Domain × Expression)) :=
  branches.mapM fun e =>
    (e.domain?.map (·, e)).mapError (Crosscut.mixed expression)

-- The alternatives of a domain, and behind them those of no domain if there are any of it.
def branchesOf (domain : Domain) (branches : List (Option Domain × Expression)) :
    List Expression :=
  let own := (branches.filter (·.1 == some domain)).map (·.2)
  if own.isEmpty then [] else own ++ (branches.filter (·.1 == none)).map (·.2)

def ofAlternatives (expression : String) (e : Expression) : Except Crosscut (Option Pointcut) := do
  let branches ← classified expression e.branches
  match ← ofBranches .execution (branchesOf .execution branches),
      ← ofBranches .autowire (branchesOf .autowire branches) with
  | some e, some w => some <$> acrossDomains e w
  | some e, none => return some e
  | none, w => return w

def parse (expression : String) : Except ReadError Pointcut := do
  let e ← (Expression.parse expression).mapError ReadError.syntactic
  match ← (ofAlternatives expression e).mapError ReadError.crosscut with
  | some p => return p
  | none => throw (.syntactic ⟨expression, .noDomain, 0⟩)

end Interpose.Pointcut
