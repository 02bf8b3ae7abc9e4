import Interpose.Pointcut.Meaning
import Interpose.Failure
import Interpose.Metadata.Vocabulary

namespace Interpose

inductive AdviceFault where
  | constructor
  | static
  | abstract
  | result (found : String)
  | params (found : List String)
  | noExpression
  -- The parameter is for methods only, the pointcut is not.
  | methodsOnly
  -- The parameter is for fields only, the pointcut is not.
  | fieldsOnly
  | noBody
  | privilege (text : String)
  deriving DecidableEq, Repr

def AdviceFault.message : AdviceFault → String
  | constructor => "constructors cannot be advice"
  | static => "advice must not be static"
  | abstract => "advice must not be abstract"
  | result found => "advice must return '" ++ valueTypeName ++ "', found '" ++ found ++ "'"
  | params found =>
    "advice must take exactly one join point parameter, found (" ++ ", ".intercalate found ++ ")"
  | noExpression => "@Around requires a pointcut expression"
  | methodsOnly => "ProceedingJoinPoint cannot receive autowire join points"
  | fieldsOnly => "AutowireJoinPoint cannot receive execution join points"
  | noBody => "no advice implementation is registered"
  | privilege text => "privilege '" ++ text ++ "' is not an integer"

inductive TemplateFault where
  | missing (number : Nat)
  | unknown (c : Char)
  | dangling
  | surplus (placeholders args : Nat)
  deriving DecidableEq, Repr

def TemplateFault.message : TemplateFault → String
  | missing number => "missing argument #" ++ toString number
  | unknown c => "unknown placeholder '%" ++ String.ofList [c] ++ "'"
  | dangling => "dangling '%' at the end"
  | surplus placeholders args =>
    toString placeholders ++ " placeholder(s) but " ++ toString args ++ " argument(s)"

def Pointcut.ReadError.message : Pointcut.ReadError → String
  | syntactic e => e.message
  | crosscut c => "divergent crosscut: " ++ c.message

inductive WeavingError where
  | pointcut (e : Pointcut.ReadError)
  -- The pointcut of an advice is at fault.
  | invalid (advice : String) (e : Pointcut.ReadError)
  | illegal (advice : String) (fault : AdviceFault)
  -- The advice applies nowhere.
  | dummy (advice : String)
  | template (text : String) (fault : TemplateFault)
  | container (e : ContainerError)
  | runtime (f : Failure)
  deriving DecidableEq, Repr

namespace WeavingError

def message : WeavingError → String
  | pointcut e => e.message
  | invalid advice e => "invalid advice '" ++ advice ++ "': " ++ e.message
  | illegal advice fault => "illegal advice '" ++ advice ++ "': " ++ fault.message
  | dummy advice => "dummy advice '" ++ advice ++ "' matches no join point"
  | template text fault => "invalid pointcut template '" ++ text ++ "': " ++ fault.message
  | container e => e.message
  | runtime f => f.message

end WeavingError

-- Mixing the domains breaks the contract; a mistake in a text does not.
def Pointcut.ReadError.breaksContract : Pointcut.ReadError → Bool
  | syntactic _ => false
  | crosscut _ => true

-- A component may not be there twice, have two scopes, or break the rules for members.
def ContainerError.breaksContract : ContainerError → Bool
  | duplicateComponent _ | duplicateScope _ | contractViolation _ _ => true
  | _ => false

def WeavingError.breaksContract : WeavingError → Bool
  | pointcut e | invalid _ e => e.breaksContract
  | illegal _ _ | dummy _ => true
  | container e => e.breaksContract
  | template _ _ | runtime _ => false

end Interpose
