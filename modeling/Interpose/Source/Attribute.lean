import Interpose.Source.Literal
import Interpose.Source.Reader

namespace Interpose.Source

inductive Given where
  | nothing
  | arguments (d : Delimiter) (content : List Token)
  -- A value behind an equals sign.
  | value (tokens : List Token)
  deriving DecidableEq, Repr

def Given.tokens : Given → List Token
  | nothing => []
  | arguments d content => .opening d :: content ++ [.closing d]
  | value tokens => .mark "=" :: tokens

structure Attribute where
  path : List Token
  given : Given
  deriving DecidableEq, Repr

namespace Attribute

def isNamed (a : Attribute) (name : String) : Bool := a.path == [.word name]

def tokens (a : Attribute) : List Token :=
  .mark "#" :: .opening .bracket :: a.path ++ a.given.tokens ++ [.closing .bracket]

def read {α : Type} (a : Attribute) (r : Reader α) : Reading α :=
  match a.given with
  | .arguments _ content => r.only content
  | _ => .error .unreadable

end Attribute

inductive NestedFault where
  | unreadable
  -- A name that is not the expected one.
  | unknownName
  deriving DecidableEq, Repr

namespace Reader

variable {α : Type}

-- Further names of a path, each behind a double colon. The bound is the number of tokens that are
-- left.
def morePath (name : Reader String) : Nat → Reader (List Token)
  | 0 => return []
  | bound + 1 => do
    if ← takeIf (.mark "::") then
      let n ← name
      return .mark "::" :: .word n :: (← morePath name bound)
    else return []

def pathOf (name : Reader String) : Reader (List Token) := do
  let leading ← optional (.mark "::")
  let n ← name
  return leading ++ .word n :: (← morePath name (← get).length)

-- A name that may stand in the path of an attribute.
def attributeName : Reader String := do
  match ← take with
  | .word name =>
    if isIdentifier name || ["super", "self", "Self", "crate"].contains name then return name
    else refuse
  | _ => refuse

def anyName : Reader String := do
  match ← take with
  | .word name => return name
  | _ => refuse

def textLiteral : Reader TextLiteral := do
  match ← take with
  | .textual l => return l
  | _ => refuse

def integerLiteral : Reader IntegerLiteral := do
  let minus ← takeIf (.mark "-")
  match ← take with
  | .number spelling =>
    match IntegerLiteral.ofSpelling? minus spelling with
    | some l => return l
    | none => refuse
  | _ => refuse

def textLiterals : Reader (List TextLiteral) := do
  return (← commaSeparated textLiteral).map (·.1)

def givenBehind : Reader Given := do
  match ← get with
  | .opening d :: _ => return .arguments d (← group d)
  | .mark "=" :: t :: rest => set ([] : List Token); return .value (t :: rest)
  | _ => return .nothing

def attributeContent : Reader Attribute := do
  let path ← if ← takeIf (.word "unsafe") then pure [.word "unsafe"] else pathOf attributeName
  return { path, given := ← givenBehind }

def oneAttribute : Reader Attribute := do
  discard (mark "#")
  attributeContent.within (← group .bracket)

-- All attributes that stand here. The bound is the number of tokens that are left.
def attributesWithin : Nat → Reader (List Attribute)
  | 0 => return []
  | bound + 1 => do
    if ← isNext (.mark "#") then return (← oneAttribute) :: (← attributesWithin bound)
    else return []

def attributes : Reader (List Attribute) := do attributesWithin (← get).length

end Reader

-- The last value that is given to a name, where no other name may stand. The bound is the number of
-- tokens.
def lastNamed {α : Type} (name : String) (value : Reader α) :
    Nat → Option α → List Token → Except NestedFault (Option α)
  | _, found, [] => .ok found
  | 0, _, _ => .error .unreadable
  | bound + 1, _, tokens =>
    match (Reader.pathOf Reader.anyName).run tokens with
    | .error _ => .error .unreadable
    | .ok (path, rest) =>
      if path = [.word name] then
        match (do discard (Reader.mark "="); value : Reader α).run rest with
        | .ok (v, []) => .ok (some v)
        | .ok (v, .mark "," :: rest) => lastNamed name value bound (some v) rest
        | _ => .error .unreadable
      else .error .unknownName

-- The value among arguments of the form `name = value`, of which the last one counts.
def namedValue {α : Type} (name : String) (value : Reader α) (tokens : List Token) :
    Except NestedFault (Option α) :=
  lastNamed name value tokens.length none tokens

end Interpose.Source
