import Interpose.Source.Token

namespace Interpose.Source

-- What counts is the last name of a path and the first type that is given to it, and whether the
-- type is a reference; otherwise a type is its tokens.
inductive TypeExpr where
  -- A path: what stands before its last name, that name, what stands behind it, and the first
  -- type there between angle brackets.
  | named (before : List Token) (name : String) (behind : List Token) (argument : Option TypeExpr)
  | reference (tokens : List Token)
  -- A type in parentheses.
  | enclosed (tokens : List Token)
  | other (tokens : List Token)
  deriving Repr

namespace TypeExpr

def tokens : TypeExpr → List Token
  | named before name behind _ => before ++ .word name :: behind
  | reference tokens => tokens
  | enclosed tokens => tokens
  | other tokens => tokens

def plain (name : String) : TypeExpr := .named [] name [] none

def text (t : TypeExpr) : String := spell t.tokens

-- The type of a description: names of a path are separated by dots there.
def label (t : TypeExpr) : String :=
  let rec dotted : List Char → List Char
    | ':' :: ':' :: rest => '.' :: dotted rest
    | c :: rest => c :: dotted rest
    | [] => []
  String.ofList (dotted (t.text.toList.filter (· != ' ')))

-- The type has this last name, whatever stands before it.
def isNamed (t : TypeExpr) (name : String) : Bool :=
  match t with
  | named _ n _ _ => n == name
  | _ => false

def givenTo (t : TypeExpr) (name : String) : Option TypeExpr :=
  match t with
  | named _ n _ argument => if n = name then argument else none
  | _ => none

def sharedInner (t : TypeExpr) : Option TypeExpr := t.givenTo "Arc"

-- What a call that may fail results in.
def successType (t : TypeExpr) : Option TypeExpr := t.givenTo "Result"

def isPath : TypeExpr → Bool
  | named _ _ _ _ => true
  | _ => false

def isEnclosed : TypeExpr → Bool
  | enclosed _ => true
  | _ => false

def isReference : TypeExpr → Bool
  | reference _ => true
  | _ => false

def isUnit : TypeExpr → Bool
  | other [.opening .paren, .closing .paren] => true
  | _ => false

end TypeExpr
end Interpose.Source
