namespace Interpose

-- Why the description of a component is not acceptable.
inductive ContractFault where
  | repeatedMethod (name : String)
  | reservedMethod (name : String)
  | repeatedField (name : String)
  deriving DecidableEq, Repr

def ContractFault.message : ContractFault → String
  | repeatedMethod name => "method '" ++ name ++ "' is declared more than once"
  | reservedMethod name => "method name '" ++ name ++ "' is reserved"
  | repeatedField name => "field '" ++ name ++ "' is declared more than once"

-- Errors of the container itself.
inductive ContainerError where
  | componentNotFound (name : String)
  | duplicateComponent (name : String)
  | ambiguousComponent (requested : String) (candidates : List String)
  | duplicateScope (component : String)
  | unknownScope (component scope : String)
  | contractViolation (component : String) (fault : ContractFault)
  -- The components of the cycle in order, the first of them again at the end.
  | circularDependency (cycle : List String)
  | methodNotFound (component method : String)
  | argumentCount (method : String) (expected actual : Nat)
  | fieldNotWired (field : String)
  | typeMismatch (expected : String)
  | containerDropped
  | alreadyInitialized
  | constructionMissing
  | loggingInitFailed (reason : String)
  | config (reason : String)
  deriving DecidableEq, Repr

def ContainerError.message : ContainerError → String
  | componentNotFound name => "component '" ++ name ++ "' is not registered"
  | duplicateComponent name => "component '" ++ name ++ "' is already registered"
  | ambiguousComponent requested candidates =>
    "component type '" ++ requested ++ "' is ambiguous, candidates: " ++
      ", ".intercalate candidates
  | duplicateScope component =>
    "component '" ++ component ++ "' declares more than one scope annotation"
  | unknownScope component scope =>
    "component '" ++ component ++ "' declares unknown scope '" ++ scope ++ "'"
  | contractViolation component fault =>
    "contract violation in '" ++ component ++ "': " ++ fault.message
  | circularDependency cycle =>
    "circular dependency detected: " ++ " -> ".intercalate cycle
  | methodNotFound component method =>
    "component '" ++ component ++ "' has no method '" ++ method ++ "'"
  | argumentCount method expected actual =>
    "method '" ++ method ++ "' expects " ++ toString expected ++ " argument(s), got " ++
      toString actual
  | fieldNotWired field => "field '" ++ field ++ "' was not wired"
  | typeMismatch expected => "value is not of type '" ++ expected ++ "'"
  | containerDropped => "container has been dropped"
  | alreadyInitialized => "container instantiator is already installed"
  | constructionMissing => "container instantiator is not installed yet"
  | loggingInitFailed reason => "failed to initialize logging: " ++ reason
  | config reason => "failed to load configuration: " ++ reason

def ContainerError.label : ContainerError → String
  | componentNotFound _ => "ComponentNotFound"
  | duplicateComponent _ => "DuplicateComponent"
  | ambiguousComponent _ _ => "AmbiguousComponent"
  | duplicateScope _ => "DuplicateScope"
  | unknownScope _ _ => "UnknownScope"
  | contractViolation _ _ => "ContractViolation"
  | circularDependency _ => "CircularDependency"
  | methodNotFound _ _ => "MethodNotFound"
  | argumentCount _ _ _ => "ArgumentCount"
  | fieldNotWired _ => "FieldNotWired"
  | typeMismatch _ => "TypeMismatch"
  | containerDropped => "ContainerDropped"
  | alreadyInitialized => "AlreadyInitialized"
  | constructionMissing => "InstantiatorMissing"
  | loggingInitFailed _ => "LoggingInitFailed"
  | config _ => "Config"

inductive Cause where
  | container (e : ContainerError)
  -- Reported by the code of a component or an advice.
  | user (message : String)
  -- Misuse of a join point or a chain.
  | other (message : String)
  deriving DecidableEq, Repr

def Cause.message : Cause → String
  | container e => e.message
  | user message => message
  | other message => message

def Cause.label : Cause → String
  | container e => e.label
  | user _ => "User"
  | other _ => "Other"

structure Failure where
  -- The components that were being created, the outermost first.
  creating : List String
  cause : Cause
  deriving DecidableEq, Repr

namespace Failure

def ofCause (c : Cause) : Failure := ⟨[], c⟩

def container (e : ContainerError) : Failure := .ofCause (.container e)

def user (message : String) : Failure := .ofCause (.user message)

def other (message : String) : Failure := .ofCause (.other message)

-- The failure as seen from outside of the creation of a component.
def whileCreating (name : String) (f : Failure) : Failure :=
  { f with creating := name :: f.creating }

def creationText (name : String) : String := "failed to create component '" ++ name ++ "'"

-- The texts of a failure from the outermost component to the cause.
def chain (f : Failure) : List String := f.creating.map creationText ++ [f.cause.message]

def message (f : Failure) : String := ((f.creating.head?).map creationText).getD f.cause.message

end Failure
end Interpose
