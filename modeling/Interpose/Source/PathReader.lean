import Interpose.Source.Attribute
import Interpose.Source.TypeExpr

namespace Interpose.Source.Reader

inductive BoundPlace where
  -- In a type of objects.
  | object
  -- In a type that only its bounds are known of.
  | hidden
  -- Behind a name that is required to meet them.
  | required
  deriving DecidableEq, Repr

structure Bounds where
  tokens : List Token
  -- One of them is a path.
  named : Bool

def Bounds.append (a b : Bounds) : Bounds := ⟨a.tokens ++ b.tokens, a.named || b.named⟩

-- The readers of what stands within types; they are told whether a sum may stand there.
structure Nested where
  type : Bool → Reader TypeExpr
  bounds : BoundPlace → Bool → Reader Bounds

-- What may stand between angle brackets.
inductive PathArgument where
  | lifetime (tokens : List Token)
  | type (t : TypeExpr)
  -- A constant, or a requirement on a type that belongs to the path.
  | other (tokens : List Token)

namespace PathArgument

def tokens : PathArgument → List Token
  | lifetime tokens => tokens
  | type t => t.tokens
  | other tokens => tokens

def isLifetime : PathArgument → Bool
  | lifetime _ => true
  | _ => false

def type? : PathArgument → Option TypeExpr
  | type t => some t
  | _ => none

end PathArgument

def comma : Token := .mark ","

-- Items with their commas; where one is missing between two items it is added.
def punctuated : List (List Token × Bool) → List Token
  | [] => []
  | [(tokens, followed)] => tokens ++ (if followed then [comma] else [])
  | (tokens, _) :: rest => tokens ++ comma :: punctuated rest

-- Arguments as they are written down: lifetimes first.
def argumentTokens (arguments : List (PathArgument × Bool)) : List Token :=
  let (lifetimes, others) := arguments.partition (·.1.isLifetime)
  punctuated ((lifetimes ++ others).map fun a => (a.1.tokens, a.2))

def angled {α : Type} (item : Reader α) : Reader (List (α × Bool)) := do
  discard (mark "<")
  let items ← separated item comma [.mark ">"] ((← get).length + 1)
  discard (mark ">")
  return items

def inAngles (tokens : List Token) : List Token := .mark "<" :: tokens ++ [.mark ">"]

-- A constant: a literal, perhaps negative, a truth value or an expression in braces.
def constant? : Reader (Option (List Token)) := do
  match ← peek with
  | some (.textual _) | some (.number _) | some (.other _) | some (.word "true")
  | some (.word "false") => return some [← take]
  | some (.opening .brace) => return some (← wholeGroup .brace)
  | some (.mark "-") =>
    match ← peekSecond with
    | some (.number _) => return some [← take, ← take]
    | _ => return none
  | _ => return none

-- A lifetime that stands alone, not in a sum.
def loneLifetime? : Reader (Option (List Token)) := do
  match ← peek, ← peekSecond with
  | some (.lifetime _), some (.mark "+") => return none
  | some (.lifetime _), _ => return some [← take]
  | _, _ => return none

-- A path of one name, which may be required to be some type.
def isRequirable : TypeExpr → Bool
  | .named [] _ behind _ => behind.head? != some (.opening .paren)
  | _ => false

variable (nested : Nested)

-- The bounds behind a colon, of which there may be none.
def requiredBounds : Reader (List Token) := do
  match ← peek with
  | none | some (.closing _) | some (.opening .brace) => return []
  | some (.mark m) =>
    if [",", ">", ";", ":", "="].contains m then return []
    else return (← nested.bounds .required true).tokens
  | _ => return (← nested.bounds .required true).tokens

def pathArgument : Reader PathArgument := do
  if let some tokens ← loneLifetime? then return .lifetime tokens
  else if let some tokens ← constant? then return .other tokens
  else
    let t ← nested.type true
    if isRequirable t then
      if ← takeIf (.mark "=") then
        if let some tokens ← constant? then return .other (t.tokens ++ .mark "=" :: tokens)
        else return .other (t.tokens ++ .mark "=" :: (← nested.type true).tokens)
      else if ← takeIf (.mark ":") then
        return .other (t.tokens ++ .mark ":" :: (← requiredBounds nested))
      else return .type t
    else return .type t

def angleArguments : Reader (List Token × Option TypeExpr) := do
  let arguments ← angled (pathArgument nested)
  return (inAngles (argumentTokens arguments), arguments.findSome? (·.1.type?))

-- One name of a path with what is given to it.
def segment : Reader (String × List Token × Option TypeExpr) := do
  match ← take with
  | .word name =>
    if ["super", "self", "crate", "try"].contains name then return (name, [], none)
    else if name == "Self" || isIdentifier name then
      if ← isNext (.mark "<") then return (name, ← angleArguments nested)
      else if (← isNext (.mark "::")) && (← peekSecond) == some (.mark "<") then
        let colons ← mark "::"
        let (tokens, argument) ← angleArguments nested
        return (name, colons ++ tokens, argument)
      else return (name, [], none)
    else refuse
  | _ => refuse

-- Further names of a path, each behind a double colon, as one with those before them. The bound is
-- the number of tokens that are left.
def moreSegments : Nat → TypeExpr → Reader TypeExpr
  | 0, path => return path
  | size + 1, path => do
    if (← isNext (.mark "::")) && (← peekSecond) != some (.opening .paren) then
      let colons ← mark "::"
      let (name, behind, argument) ← segment nested
      moreSegments size (.named (path.tokens ++ colons) name behind argument)
    else return path

def plainPath : Reader TypeExpr := do
  let leading ← optional (.mark "::")
  let (name, behind, argument) ← segment nested
  moreSegments nested (← get).length (.named leading name behind argument)

def result : Reader (Option TypeExpr) := do
  if ← takeIf (.mark "->") then return some (← nested.type false) else return none

def resultTokens : Option TypeExpr → List Token
  | some t => .mark "->" :: t.tokens
  | none => []

-- Types of arguments in parentheses and that of the result, and whether a path may go on behind
-- them: no type that itself may go on is the last thing there.
def callArguments : Reader (List Token × Bool) := do
  let opening ← expect (.opening .paren)
  let types ← commaSeparated (nested.type true)
  let closing ← expect (.closing .paren)
  let result ← result nested
  let tokens := opening ++ punctuated (types.map fun t => (t.1.tokens, t.2)) ++ closing ++
    resultTokens result
  return (tokens, result.all TypeExpr.isEnclosed)

-- Parentheses stand here, perhaps behind a double colon.
def callAhead : Reader Bool := do
  if ← isNext (.mark "::") then return (← peekSecond) == some (.opening .paren)
  else isNext (.opening .paren)

-- No arguments stand behind a name, even if there are brackets for them.
def isBare (behind : List Token) : Bool :=
  [[], inAngles [], .mark "::" :: inAngles []].contains behind

-- What is given in parentheses to the last name of a path, if nothing else is. The path may then go
-- on in turn, so many times at most.
def withCalls : Nat → TypeExpr → Reader TypeExpr
  | 0, path => return path
  | times + 1, path => do
    match path with
    | .named before name behind _ =>
      if isBare behind && (← callAhead) then
        discard (optional (.mark "::"))
        let (tokens, goesOn) ← callArguments nested
        let path := .named before name tokens none
        if goesOn then withCalls times (← moreSegments nested times path) else return path
      else return path
    | path => return path

def path : Reader TypeExpr := do
  let path ← plainPath nested
  withCalls nested (← get).length path

-- A path that begins at a type between angle brackets; its names count for nothing.
def qualifiedPath : Reader TypeExpr := do
  let less ← mark "<"
  let this ← nested.type true
  let role ← do
    if ← takeIf (.word "as") then pure (Token.word "as" :: (← plainPath nested).tokens)
    else pure []
  let greater ← mark ">"
  let colons ← mark "::"
  let (name, behind, argument) ← segment nested
  let start := less ++ this.tokens ++ role ++ greater ++ colons
  let path ← moreSegments nested (← get).length (.named start name behind argument)
  if ← isNext (.mark "::") then refuse
  else return .other (← withCalls nested (← get).length path).tokens

-- Lifetimes with plus signs between them. The bound is the number of tokens that are left.
def lifetimes : Nat → Reader (List Token)
  | 0 => return []
  | size + 1 => do
    match ← peek with
    | some (.lifetime name) =>
      discard take
      if ← takeIf (.mark "+") then return .lifetime name :: .mark "+" :: (← lifetimes size)
      else return [.lifetime name]
    | _ => return []

-- What a parameter is required to meet; without anything there is no colon.
def requirements (bounds : Reader (List Token)) : Reader (List Token) := do
  if ← takeIf (.mark ":") then
    let tokens ← bounds
    return if tokens.isEmpty then [] else .mark ":" :: tokens
  else return []

def fallback (value : Reader (List Token)) : Reader (List Token) := do
  if ← takeIf (.mark "=") then return .mark "=" :: (← value) else return []

def constantValue : Reader (List Token) := do
  match ← constant? with
  | some tokens => return tokens
  | none => return [.word (← identifier)]

-- A parameter of a generic declaration, and whether it is a lifetime.
def parameter : Reader (Bool × List Token) := do
  let attributes := (← attributes).flatMap Attribute.tokens
  match ← take with
  | .lifetime name =>
    let bounds ← requirements do lifetimes (← get).length
    return (true, attributes ++ .lifetime name :: bounds)
  | .word "const" =>
    let name ← identifier
    let colon ← mark ":"
    let type ← nested.type true
    let value ← fallback constantValue
    return (false, attributes ++ .word "const" :: .word name :: colon ++ type.tokens ++ value)
  | .word "_" => return (false, attributes ++ [.word "_"])
  | .word name =>
    if isIdentifier name then
      let bounds ← requirements (requiredBounds nested)
      let value ← fallback do return (← nested.type true).tokens
      return (false, attributes ++ .word name :: bounds ++ value)
    else refuse
  | _ => refuse

def binder : Reader (List Token) := do
  if ← takeIf (.word "for") then
    let parameters ← angled (parameter nested)
    return .word "for" :: inAngles (punctuated (parameters.map fun p => (p.1.2, p.2)))
  else return []

-- A path in a bound may hold for constants, where bounds of objects never do.
def constancy (place : BoundPlace) : Reader (List Token) := do
  match ← peek with
  | some (.word "const") =>
    let keyword ← take
    if place = .object then throw .misplacedConstancy else return [keyword]
  | some (.opening .bracket) =>
    let content ← group .bracket
    if content != [.word "const"] then refuse
    else if place = .object then throw .misplacedMaybeConstancy
    else return .opening .bracket :: content ++ [.closing .bracket]
  | _ => return []

-- A path that a type has to meet, or that it need not meet behind a question mark.
def requirement (place : BoundPlace) : Reader (List Token) := do
  let inFront ← binder nested
  let constancy ← constancy place
  let question ← optional (.mark "?")
  let behind ← if inFront.isEmpty && !question.isEmpty then binder nested else pure []
  let path ← withCalls nested 1 (← plainPath nested)
  if !question.isEmpty && !(inFront ++ behind).isEmpty then throw .boundQuestion
  return inFront ++ constancy ++ question ++ behind ++ path.tokens

-- The lifetimes and types that a hidden type may hold.
def capture : Reader (List Token) := do
  let keyword ← word "use"
  let names ← angled do
    match ← take with
    | .lifetime name => pure (PathArgument.lifetime [.lifetime name])
    | .word name =>
      if isIdentifier name || name == "Self" then pure (PathArgument.other [.word name])
      else refuse
    | _ => refuse
  return keyword ++ inAngles (argumentTokens names)

-- A single bound: a lifetime, a capture or a path, perhaps in parentheses.
def bound (place : BoundPlace) : Reader Bounds := do
  match ← peek with
  | some (.lifetime _) => return ⟨[← take], false⟩
  | some (.word "use") =>
    let tokens ← capture
    if place = .hidden then return ⟨tokens, false⟩ else throw .misplacedCapture
  | some (.opening .paren) =>
    let opening ← expect (.opening .paren)
    let tokens ← requirement nested place
    return ⟨opening ++ tokens ++ (← expect (.closing .paren)), true⟩
  | _ => return ⟨← requirement nested place, true⟩

-- A bound may begin here.
def boundAhead (place : BoundPlace) : Reader Bool := do
  match ← peek with
  | some (.word _) | some (.lifetime _) | some (.mark "::") | some (.mark "?")
  | some (.opening .paren) => return true
  | some (.opening .bracket) => return place != .object
  | _ => return false

-- Further bounds of a sum, if one may stand there; a plus sign may be the last of it. The bound is
-- the number of tokens that are left.
def moreBounds (place : BoundPlace) (plus : Bool) : Nat → Reader Bounds
  | 0 => return ⟨[], false⟩
  | size + 1 => do
    if !plus then return ⟨[], false⟩
    else if ← takeIf (.mark "+") then
      if ← boundAhead place then
        let first ← bound nested place
        return (Bounds.append ⟨[.mark "+"], false⟩ first).append (← moreBounds place plus size)
      else return ⟨[.mark "+"], false⟩
    else return ⟨[], false⟩

-- Bounds, of which there is one at least.
def boundsWith (place : BoundPlace) (plus : Bool) : Reader Bounds := do
  let first ← bound nested place
  return first.append (← moreBounds nested place plus (← get).length)

end Interpose.Source.Reader
