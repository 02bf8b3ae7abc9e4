import Interpose.Source.Item
import Interpose.Source.TypeReader

namespace Interpose.Source
namespace Reader

-- Who may use a declaration: everyone, or some part of the program. A type may stand behind the
-- word for everyone, so other parentheses are left alone.
def visibility : Reader (List Token) := do
  if ← takeIf (.word "pub") then
    match ← get with
    | .opening .paren :: rest =>
      let (scope, rest) ← present (splitGroup 0 rest)
      match scope with
      | [.word name] =>
        if ["crate", "self", "super"].contains name then
          set rest
          return restricted scope
        else return [.word "pub"]
      | .word "in" :: path =>
        discard ((pathOf attributeName).within path)
        set rest
        return restricted scope
      | _ => return [.word "pub"]
    | _ => return [.word "pub"]
  else return []
where
  restricted (scope : List Token) : List Token :=
    .word "pub" :: .opening .paren :: scope ++ [.closing .paren]

-- Parameters between angle brackets as they are written down: lifetimes first, and nothing if there
-- are none.
def generics : Reader (List Token) := do
  if ← isNext (.mark "<") then
    let parameters ← angled (parameter (← outermost))
    let (lifetimes, others) := parameters.partition (·.1.1)
    if parameters.isEmpty then return []
    else return inAngles (punctuated ((lifetimes ++ others).map fun p => (p.1.2, p.2)))
  else return []

-- A lifetime or a type, and what it has to meet.
def condition : Reader (List Token) := do
  let nested ← outermost
  match ← get with
  | .lifetime name :: .mark ":" :: rest =>
    set rest
    return .lifetime name :: .mark ":" :: (← lifetimes rest.length)
  | _ =>
    let inFront ← binder nested
    let type ← nested.type true
    let colon ← mark ":"
    return inFront ++ type.tokens ++ colon ++ (← requiredBounds nested)

-- Conditions on the parameters of a declaration, up to what follows them; without any there is no
-- word for them.
def conditions : Reader (List Token) := do
  if ← takeIf (.word "where") then
    let found ← separated condition comma [.opening .brace, .mark ";"] ((← get).length + 1)
    if found.isEmpty then return [] else return .word "where" :: punctuated found
  else return []

def field : Reader Field := do
  let attributes ← attributes
  discard visibility
  let name ← do
    if ← takeIf (.word "_") then pure "_" else identifier
  discard (mark ":")
  return { attributes, name, type := ← typeExpr }

def positionalField : Reader Unit := do
  discard attributes
  discard visibility
  discard typeExpr

def structShape : Reader Shape := do
  if ← isNext (.opening .paren) then
    let content ← group .paren
    discard conditions
    discard (mark ";")
    discard ((commaSeparated positionalField).within content)
    return .positional
  else
    discard conditions
    if ← isNext (.opening .brace) then
      return .named ((← (commaSeparated field).within (← group .brace)).map (·.1))
    else
      discard (mark ";")
      return .named []

-- An alternative that holds nothing.
def alternative : Reader String := do
  discard attributes
  identifier

def typeItem : Reader TypeItem := do
  let attributes ← attributes
  discard visibility
  match ← take with
  | .word "struct" =>
    let name ← identifier
    let generics ← generics
    return { attributes, name, generic := !generics.isEmpty, shape := ← structShape }
  | .word "enum" =>
    let name ← identifier
    let generics ← generics
    discard conditions
    discard ((commaSeparated alternative).within (← group .brace))
    return { attributes, name, generic := !generics.isEmpty, shape := .alternatives }
  | .word "union" =>
    let name ← identifier
    let generics ← generics
    discard conditions
    discard ((commaSeparated field).within (← group .brace))
    return { attributes, name, generic := !generics.isEmpty, shape := .alternatives }
  | _ => refuse

-- Patterns between delimiters, with the delimiters.
def patternsBetween (pattern : Reader (List Token)) (d : Delimiter) : Reader (List Token) := do
  let opening ← expect (.opening d)
  let patterns ← commaSeparated pattern
  return opening ++ punctuated patterns ++ (← expect (.closing d))

-- What the value behind a name is taken apart as, if anything.
def behindPatternName (pattern : Reader (List Token)) : Reader (List Token) := do
  if ← takeIf (.mark "@") then return .mark "@" :: (← pattern) else return []

-- A pattern with at most so many levels of patterns within patterns.
def patternAt : Nat → Reader (List Token)
  | 0 => refuse
  | depth + 1 => do
    match ← peek with
    | some (.word "_") | some (.textual _) | some (.number _) | some (.other _)
    | some (.word "true") | some (.word "false") => return [← take]
    | some (.mark "-") => return [← take, ← take]
    | some (.mark ".") => return (← mark ".") ++ (← mark ".")
    | some (.mark "&") =>
      return (← mark "&") ++ (← optional (.word "mut")) ++ (← patternAt depth)
    | some (.opening .paren) => patternsBetween (patternAt depth) .paren
    | some (.opening .bracket) => patternsBetween (patternAt depth) .bracket
    | some (.word "ref") | some (.word "mut") =>
      let manner := (← optional (.word "ref")) ++ (← optional (.word "mut"))
      let name ← identifier
      return manner ++ .word name :: (← behindPatternName (patternAt depth))
    | _ =>
      let path ← pathOf attributeName
      match ← peek with
      | some (.opening .paren) => return path ++ (← patternsBetween (patternAt depth) .paren)
      | some (.opening .brace) => return path ++ (← wholeGroup .brace)
      | _ => return path ++ (← behindPatternName (patternAt depth))

-- The instance as an argument. Only without a reference may its type be given.
def receiver : Reader Argument := do
  if ← isNext (.mark "&") then
    let ampersand ← mark "&"
    let lifetime ← do
      match ← peek with
      | some (.lifetime _) => pure [← take]
      | _ => pure []
    let mutable ← optional (.word "mut")
    let this ← word "self"
    return .receiver true (!mutable.isEmpty) (ampersand ++ lifetime ++ mutable ++ this)
  else
    let mutable ← optional (.word "mut")
    let this ← word "self"
    let type ← do
      if ← takeIf (.mark ":") then pure (.mark ":" :: (← typeExpr).tokens) else pure []
    return .receiver false (!mutable.isEmpty) (mutable ++ this ++ type)

def argument : Reader Argument := do
  let attributes := (← attributes).flatMap Attribute.tokens
  let tokens ← get
  match receiver.run tokens with
  | .ok (a, rest) => set rest; return a.behind attributes
  | .error _ =>
    let pattern ← patternAt tokens.length
    discard (mark ":")
    return .typed (attributes ++ pattern) (← typeExpr)

def isReceiver : Argument → Bool
  | .receiver _ _ _ => true
  | .typed _ _ => false

def signatureArguments : Reader (List (Argument × Bool)) := do
  let content ← group .paren
  let arguments ← (commaSeparated argument).within content
  if (arguments.drop 1).any fun a => isReceiver a.1 then refuse else return arguments

def manner : Reader (List Token) := do
  let before ← ["default", "const", "async", "unsafe"].mapM fun name => optional (.word name)
  return before.flatten ++ (← linkage)

def function (attributes : List Attribute) (visibility : List Token) : Reader Function := do
  let manner ← manner
  discard (word "fn")
  let name ← identifier
  let generics ← generics
  let arguments ← signatureArguments
  let output ← do
    if ← takeIf (.mark "->") then pure (some (← typeExpr)) else pure none
  let conditions ← conditions
  let body ← wholeGroup .brace
  return { attributes, visibility, manner, name, generics, arguments, output, conditions, body }

def beforeSemicolon : Reader (List Token) := do
  let tokens := (← get).takeWhile (· != .mark ";")
  set ((← get).drop tokens.length)
  return tokens

def constantItem (before : List Token) : Reader (List Token) := do
  let standing ← optional (.word "default")
  let keyword ← word "const"
  let name ← do
    if ← takeIf (.word "_") then pure "_" else identifier
  let colon ← mark ":"
  let type ← typeExpr
  let equals ← mark "="
  let value ← beforeSemicolon
  let semicolon ← mark ";"
  if value.isEmpty then refuse
  else
    return before ++ standing ++ keyword ++ .word name :: colon ++ type.tokens ++ equals ++
      value ++ semicolon

-- A constant stands here, and not a function.
def constantAhead : Reader Bool := do
  let tokens ← get
  let tokens := if tokens.head? == some (.word "default") then tokens.drop 1 else tokens
  match tokens with
  | .word "const" :: .word name :: _ => return isIdentifier name || name == "_"
  | _ => return false

def member : Reader Member := do
  let attributes ← attributes
  let visibility ← visibility
  if ← constantAhead then
    return .other (← constantItem (attributes.flatMap Attribute.tokens ++ visibility))
  else return .function (← function attributes visibility)

def members : Nat → Reader (List Member)
  | 0 => return []
  | bound + 1 => do
    if ← atClose then return [] else return (← member) :: (← members bound)

-- Parameters, and not a type in angle brackets, stand in front of the type of a block.
def genericsAhead : List Token → Bool
  | .mark "<" :: .mark ">" :: _ => true
  | .mark "<" :: .mark "#" :: _ => true
  | .mark "<" :: .word "const" :: _ => true
  | .mark "<" :: .lifetime _ :: .mark m :: _ => [":", ",", ">", "="].contains m
  | .mark "<" :: .word name :: .mark m :: _ =>
    isIdentifier name && [":", ",", ">", "="].contains m
  | _ => false

def block : Reader Block := do
  discard (word "impl")
  let generics ← do
    if genericsAhead (← get) then generics else pure []
  let first ← typeExpr
  let (ofTrait, type) ← do
    if ← takeIf (.word "for") then
      match first with
      | .named _ _ _ _ => pure (true, ← typeExpr)
      | _ => refuse
    else pure (false, first)
  let conditions ← conditions
  let content ← group .brace
  let members ← (members content.length).within content
  return { generic := !generics.isEmpty, ofTrait, type, conditions, members }

end Reader

def TypeItem.parse (text : String) : Reading TypeItem := do
  Reader.typeItem.only (← scanned text)

def Block.parse (text : String) : Reading Block := do
  Reader.block.only (← scanned text)

end Interpose.Source
