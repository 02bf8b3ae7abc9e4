import Interpose.Pointcut.Expression
import Interpose.Pointcut.SyntaxError

namespace Interpose.Pointcut

-- A fault and its position; none is the end of the expression.
structure ParseFault where
  fault : SyntaxFault
  position : Option Nat
  deriving DecidableEq, Repr

-- Negation binds closest, then conjunction, then disjunction; both operators group to the left.
abbrev Parser := StateT (List Located) (Except ParseFault)

namespace Parser

variable {α : Type}

def failAt (fault : SyntaxFault) (position : Nat) : Parser α := throw ⟨fault, some position⟩

def unexpected (wanted : Wanted) : Parser α := do
  match ← get with
  | [] => throw ⟨.expected wanted none, none⟩
  | t :: _ => failAt (.expected wanted (some t.token)) t.position

def expect (token : Token) (wanted : Wanted) : Parser Unit := do
  match ← get with
  | t :: rest => if t.token = token then set rest else unexpected wanted
  | [] => unexpected wanted

def word (wanted : Wanted) : Parser (String × Nat) := do
  match ← get with
  | ⟨.word text, position⟩ :: rest => set rest; return (text, position)
  | _ => unexpected wanted

-- The text has two dots side by side.
def hasDots : List Char → Bool
  | '.' :: '.' :: _ => true
  | _ :: rest => hasDots rest
  | [] => false

-- A type pattern that begins at a position. A plus may only stand at its end, and only where
-- subtypes make sense.
def typeOf (text : String) (position : Nat) (covariance : Bool) : Parser TypePattern :=
  if hasDots text.toList then failAt (.dotsInType text) position
  else
    match text.toList.findIdx? (· == '+') with
    | none => return .parse text
    | some offset =>
      if covariance && offset + 1 == text.length then return .parse text
      else failAt .covariance (position + offset)

def typeShape (wanted : Wanted) (covariance : Bool) : Parser TypePattern := do
  let (text, position) ← word wanted
  typeOf text position covariance

def methodName (name : String) (position : Nat) : Parser NamePattern :=
  if name.isEmpty || name.toList.contains '+' then failAt (.methodName name) position
  else return .parse name

-- A method name, perhaps behind a declaring type and a dot.
def qualifiedName (text : String) (position : Nat) :
    Parser (Option TypePattern × NamePattern) :=
  match splitQualified text with
  | none => return (none, ← methodName text position)
  | some (declaring, name) => do
    let type ← typeOf declaring position true
    return (some type, ← methodName name (position + declaring.length + 1))

def param : Parser ParamPattern := do
  let (text, position) ← word .paramType
  if text = ".." then return .rest else return .one (← typeOf text position true)

-- Further parameters, each behind a comma. The bound is the number of tokens that are left, of
-- which each round takes one.
def moreParams : Nat → Parser (List ParamPattern)
  | 0 => return []
  | bound + 1 => do
    match ← get with
    | ⟨.comma, _⟩ :: rest =>
      set rest
      let p ← param
      return p :: (← moreParams bound)
    | _ => return []

def params : Parser (List ParamPattern) := do
  match ← get with
  | ⟨.closeParen, _⟩ :: _ => return []
  | tokens => do
    let p ← param
    return p :: (← moreParams tokens.length)

def methodShape : Parser MethodPattern := do
  let returnType ← typeShape .returnType true
  let (text, position) ← word .methodName
  let (declaringType, name) ← qualifiedName text position
  expect .openParen .openParen
  let params ← params
  expect .closeParen .closeParams
  return { returnType, declaringType, name, params }

def fieldName (text : String) (position : Nat) : Parser NamePattern :=
  if text.toList.contains '.' || text.toList.contains '+' then failAt (.fieldName text) position
  else return .parse text

def fieldShape : Parser FieldPattern := do
  let fieldType ← typeShape .fieldType true
  match ← get with
  | ⟨.word text, position⟩ :: rest =>
    set rest
    return { fieldType, name := some (← fieldName text position) }
  | _ => return { fieldType, name := none }

-- A designator behind an at sign, which is looked up only once its type is read.
def annotationDesignator : Parser Designator := do
  let (name, position) ← word .annotationDesignator
  expect .openParen .openParen
  let pattern ← typeShape .annotationType false
  expect .closeParen .closeParen
  match name with
  | "within" => return .annotatedWithin pattern
  | "target" => return .annotatedTarget pattern
  | "execution" => return .annotatedExecution pattern
  | "autowire" => return .annotatedAutowire pattern
  | _ => failAt (.unknownAnnotationDesignator name) position

-- A designator by its name, the parenthesis behind it being taken.
def designatorNamed (name : String) (position : Nat) : Parser Designator := do
  match name with
  | "execution" => return .execution (← methodShape)
  | "autowire" => return .autowire (← fieldShape)
  | "within" => return .within (← typeShape .type true)
  | "target" => return .target (← typeShape .type true)
  | _ => failAt (.unknownDesignator name) position

def designator : Parser Designator := do
  match ← get with
  | ⟨.atSign, _⟩ :: rest => set rest; annotationDesignator
  | ⟨.word name, position⟩ :: rest =>
    set rest
    expect .openParen .openParen
    let d ← designatorNamed name position
    expect .closeParen .closeParen
    return d
  | _ => unexpected .designator

-- Further operands, each behind the operator, are joined to what is on their left. The bound is the
-- number of tokens that are left, of which each round takes one.
def moreOperands (operand : Parser Expression) (operator : Token)
    (join : Expression → Expression → Nat → Expression) : Nat → Expression → Parser Expression
  | 0, left => return left
  | bound + 1, left => do
    match ← get with
    | ⟨token, position⟩ :: rest =>
      if token = operator then
        set rest
        let right ← operand
        moreOperands operand operator join bound (join left right position)
      else return left
    | [] => return left

-- Operands with the operator between each two.
def joined (operand : Parser Expression) (operator : Token)
    (join : Expression → Expression → Nat → Expression) : Parser Expression := do
  let first ← operand
  moreOperands operand operator join (← get).length first

def conjunction (operand : Parser Expression) : Parser Expression := joined operand .and .and

def disjunction (operand : Parser Expression) : Parser Expression :=
  joined (conjunction operand) .or .or

-- A designator, a negation or an expression in parentheses, with room for so many levels of the
-- latter two.
def operand : Nat → Parser Expression
  | 0 => do
    match ← get with
    | ⟨.not, position⟩ :: _ => failAt .nesting position
    | ⟨.openParen, position⟩ :: _ => failAt .nesting position
    | _ => return .leaf (← designator)
  | room + 1 => do
    match ← get with
    | ⟨.not, _⟩ :: rest =>
      set rest
      return .not (← operand room)
    | ⟨.openParen, _⟩ :: rest =>
      set rest
      let e ← disjunction (operand room)
      expect .closeParen .closeParen
      return e
    | _ => return .leaf (← designator)

end Parser

def Expression.ofTokens (tokens : List Located) : Except ParseFault Expression :=
  if tokens.isEmpty then .error ⟨.empty, some 0⟩
  else do
    let (e, rest) ← (Parser.disjunction (Parser.operand maxNesting)).run tokens
    match rest with
    | [] => return e
    | _ :: _ => (Parser.unexpected .operator).run' rest

def TokenFault.toSyntax : TokenFault → ParseFault
  | undoubled c position => ⟨.undoubled c, some position⟩
  | stray c position => ⟨.stray c, some position⟩

def ParseFault.locate (expression : String) (f : ParseFault) : SyntaxError where
  expression := expression
  fault := f.fault
  position := f.position.getD expression.length

def Expression.parse (text : String) : Except SyntaxError Expression :=
  (do Expression.ofTokens (← (tokensOf text).mapError TokenFault.toSyntax)).mapError
    (ParseFault.locate text)

end Interpose.Pointcut
