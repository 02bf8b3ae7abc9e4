import Interpose.Pointcut.Token

namespace Interpose.Pointcut

-- The deepest nesting of negations and grouping parentheses.
def maxNesting : Nat := 64

inductive Wanted where
  | designator | annotationDesignator | openParen | closeParen | closeParams | annotationType
  | type | returnType | methodName | paramType | fieldType | operator
  deriving DecidableEq, Repr

def Wanted.text : Wanted → String
  | designator => "pointcut designator"
  | annotationDesignator => "annotation designator"
  | openParen => "'('"
  | closeParen => "')'"
  | closeParams => "')' after parameters"
  | annotationType => "annotation type"
  | type => "type"
  | returnType => "return type"
  | methodName => "method name"
  | paramType => "parameter type"
  | fieldType => "field type"
  | operator => "'&&', '||' or end of expression"

inductive SyntaxFault where
  | empty
  | undoubled (c : Char)
  | stray (c : Char)
  -- Nothing is found at the end of the expression.
  | expected (wanted : Wanted) (found : Option Token)
  | nesting
  | unknownDesignator (name : String)
  | unknownAnnotationDesignator (name : String)
  | dotsInType (text : String)
  | covariance
  | methodName (name : String)
  | fieldName (name : String)
  -- The expression only names members of types.
  | noDomain
  deriving DecidableEq, Repr

def SyntaxFault.message : SyntaxFault → String
  | empty => "empty pointcut expression"
  | undoubled c => "expected '" ++ String.ofList [c, c] ++ "'"
  | stray c => "unexpected character '" ++ String.ofList [c] ++ "'"
  | expected wanted (some token) => "expected " ++ wanted.text ++ ", found " ++ token.shown
  | expected wanted none => "expected " ++ wanted.text ++ ", found end of expression"
  | nesting => "expression nests deeper than " ++ toString maxNesting ++ " levels"
  | unknownDesignator name => "unknown designator '" ++ name ++ "'"
  | unknownAnnotationDesignator name => "unknown designator '@" ++ name ++ "'"
  | dotsInType text => "'..' is not allowed in type pattern '" ++ text ++ "'"
  | covariance => "unexpected covariance marker '+'"
  | methodName name => "invalid method name '" ++ name ++ "'"
  | fieldName name => "invalid field name '" ++ name ++ "'"
  | noDomain => "pointcut needs an execution or autowire designator"

structure SyntaxError where
  expression : String
  fault : SyntaxFault
  position : Nat
  deriving DecidableEq, Repr

def SyntaxError.message (e : SyntaxError) : String :=
  e.fault.message ++ " at position " ++ toString e.position ++ " in pointcut '" ++
    e.expression ++ "'"

end Interpose.Pointcut
