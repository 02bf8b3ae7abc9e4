import Interpose.Source.PathReader

namespace Interpose.Source.Reader

variable (nested : Nested)

-- A name and a colon stand in front of what an argument is.
def nameAhead (first : Bool) : Reader Bool := do
  match ← peek, ← peekSecond with
  | some (.word name), some (.mark ":") =>
    return name == "_" || isIdentifier name || (first && name == "self")
  | _, _ => return false

def argumentName (first : Bool) : Reader (List Token) := do
  if ← nameAhead first then return [← take, ← take] else return []

-- An argument of a type of functions. The first one may be the instance itself.
def functionArgument (first : Bool) : Reader (List Token) := do
  if first && (← isNext (.word "mut")) && (← peekSecond) == some (.word "self") then
    let keyword ← take
    let name ← argumentName true
    if name.isEmpty then return keyword :: (← word "self")
    else return keyword :: name ++ (← nested.type true).tokens
  else
    let name ← argumentName first
    return name ++ (← nested.type true).tokens

-- Any number of further arguments, the last thing in the parentheses.
def variadic : Reader (List Token) := do
  let name ← argumentName false
  let dots ← mark "..."
  let behind ← optional comma
  if ← atClose then return name ++ dots ++ behind else refuse

-- Arguments of a type of functions up to the closing parenthesis. The bound is the number of tokens
-- that are left.
def functionArguments : Nat → Bool → Reader (List Token)
  | 0, _ => return []
  | size + 1, first => do
    if ← atClose then return []
    else
      let attributes := (← attributes).flatMap Attribute.tokens
      if ← variadicAhead then return attributes ++ (← variadic)
      else
        let argument ← functionArgument nested first
        if ← takeIf comma then
          return attributes ++ argument ++ comma :: (← functionArguments size false)
        else return attributes ++ argument
where
  variadicAhead : Reader Bool := do
    let ahead := (← get).drop (if ← nameAhead false then 2 else 0)
    return ahead.head? == some (.mark "...")

-- A word for functions of another convention, perhaps with its name.
def linkage : Reader (List Token) := do
  if ← takeIf (.word "extern") then
    match ← peek with
    | some (.textual l) => discard take; return [.word "extern", .textual l]
    | _ => return [.word "extern"]
  else return []

def functionType : Reader (List Token) := do
  let unsafety ← optional (.word "unsafe")
  let linkage ← linkage
  let keyword ← word "fn"
  let opening ← expect (.opening .paren)
  let arguments ← functionArguments nested ((← get).length + 1) true
  let closing ← expect (.closing .paren)
  return unsafety ++ linkage ++ keyword ++ opening ++ arguments ++ closing ++
    resultTokens (← result nested)

-- Bounds that are required behind plus signs. The bound is the number of tokens that are left.
def addedBounds : Nat → Reader (List Token)
  | 0 => return []
  | size + 1 => do
    if ← takeIf (.mark "+") then
      let first ← bound nested .object
      return .mark "+" :: first.tokens ++ (← addedBounds size)
    else return []

-- A type that begins with a parenthesis: several types, a type alone, or the first bound of a sum.
def parenthesized (plus : Bool) : Reader TypeExpr := do
  let opening ← expect (.opening .paren)
  match ← peek with
  | some (.lifetime _) =>
    let t ← nested.type true
    return .enclosed (opening ++ t.tokens ++ (← expect (.closing .paren)))
  | some (.mark "?") =>
    let first ← requirement nested .object
    let closing ← expect (.closing .paren)
    return .other (opening ++ first ++ closing ++ (← addedBounds nested (← get).length))
  | _ =>
    let types ← commaSeparated (nested.type true)
    let closing ← expect (.closing .paren)
    let whole := opening ++ punctuated (types.map fun t => (t.1.tokens, t.2)) ++ closing
    match types with
    | [(t, false)] =>
      if plus && t.isPath && (← isNext (.mark "+")) then
        return .other (whole ++ (← addedBounds nested (← get).length))
      else return .enclosed whole
    | _ => return .other whole

-- A type between brackets, perhaps with a length.
def bracketed : Reader TypeExpr := do
  let opening ← expect (.opening .bracket)
  let t ← nested.type true
  if ← takeIf (.mark ";") then
    let (length, rest) ← present (splitGroup 0 (← get))
    if length.isEmpty then refuse
    else
      set rest
      return .other (opening ++ t.tokens ++ .mark ";" :: length ++ [.closing .bracket])
  else return .other (opening ++ t.tokens ++ (← expect (.closing .bracket)))

def referenceType : Reader TypeExpr := do
  let ampersand ← mark "&"
  let lifetime ← do
    match ← peek with
    | some (.lifetime _) => pure [← take]
    | _ => pure []
  let mutable ← optional (.word "mut")
  return .reference (ampersand ++ lifetime ++ mutable ++ (← nested.type false).tokens)

def pointerType : Reader TypeExpr := do
  let star ← mark "*"
  let access ← take
  if access == .word "const" || access == .word "mut" then
    return .other (star ++ access :: (← nested.type false).tokens)
  else refuse

def areNames (tokens : List Token) : Bool :=
  tokens.all fun
    | .word _ => true
    | t => t == .mark "::"

-- A type that begins with a path, behind the parameters that are bound in front of it: what the
-- path makes of a group, the path itself, or a sum.
def pathType (inFront : List Token) (plus : Bool) : Reader TypeExpr := do
  let path ← path nested
  if areNames path.tokens then
    if ← takeIf (.mark "!") then
      match ← peek with
      | some (.opening d) => return .other (path.tokens ++ .mark "!" :: (← wholeGroup d))
      | _ => refuse
  let more ← moreBounds nested .object plus (← get).length
  if inFront.isEmpty && more.tokens.isEmpty then return path
  else return .other (inFront ++ path.tokens ++ more.tokens)

-- A name stands here that a path may begin with.
def firstNameAhead : Reader Bool := do
  match ← peek with
  | some (.word name) =>
    return isIdentifier name || ["super", "self", "Self", "crate"].contains name
  | _ => return false

-- A type with parameters that are bound in front of it.
def boundType (plus : Bool) : Reader TypeExpr := do
  let inFront ← binder nested
  match ← peek with
  | some (.word "fn") | some (.word "unsafe") | some (.word "extern") =>
    return .other (inFront ++ (← functionType nested))
  | _ => if ← firstNameAhead then pathType nested inFront plus else refuse

-- Bounds of which one is a path.
def naming (otherwise : Refusal) (bounds : Bounds) : Reader (List Token) :=
  if bounds.named then return bounds.tokens else throw otherwise

-- A type of objects, of which only its bounds count.
def objectType (plus : Bool) : Reader TypeExpr := do
  let keyword ← word "dyn"
  let star ← optional (.mark "*")
  return .other (keyword ++ star ++
    (← naming .objectWithoutTrait (← boundsWith nested .object plus)))

def hiddenType (plus : Bool) : Reader TypeExpr := do
  let keyword ← word "impl"
  return .other (keyword ++ (← naming .implWithoutTrait (← boundsWith nested .hidden plus)))

-- A type whose parts are read by the readers at hand.
def typeWith (plus : Bool) : Reader TypeExpr := do
  match ← peek with
  | some (.opening .paren) => parenthesized nested plus
  | some (.opening .bracket) => bracketed nested
  | some (.mark "&") => referenceType nested
  | some (.mark "*") => pointerType nested
  | some (.mark "!") => return .other [← take]
  | some (.mark "<") => qualifiedPath nested
  | some (.mark "::") => pathType nested [] plus
  | some (.lifetime _) =>
    return .other (← naming .objectWithoutTrait (← boundsWith nested .object true))
  | some (.word "_") => return .other [← take]
  | some (.word "dyn") => objectType nested plus
  | some (.word "impl") => hiddenType nested plus
  | some (.word "fn") | some (.word "unsafe") | some (.word "extern") =>
    return .other (← functionType nested)
  | some (.word "for") => boundType nested plus
  | _ => if ← firstNameAhead then pathType nested [] plus else refuse

-- Readers of types and bounds with at most so many levels of types within types.
def nestedAt : Nat → Nested
  | 0 => ⟨fun _ => refuse, fun _ _ => refuse⟩
  | depth + 1 => {
      type := fun plus => typeWith (nestedAt depth) plus
      bounds := fun place plus => boundsWith (nestedAt depth) place plus }

-- Readers of whole types and bounds. Each level takes a token, so there are no more levels than
-- tokens.
def outermost : Reader Nested := return nestedAt (← get).length

def typeExpr : Reader TypeExpr := do (← outermost).type true

end Interpose.Source.Reader
