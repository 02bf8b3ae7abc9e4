import Interpose.Pointcut.Basic
import Interpose.Pointcut.Verdict

namespace Interpose.Pointcut

-- What is known of where a call comes from. While types are woven nothing is known of it yet.
inductive Caller where
  -- Nothing yet.
  | unknown
  -- It comes from no type.
  | absent
  | type (name : String)
  deriving DecidableEq, Repr

def Caller.ofOption : Option String → Caller
  | none => absent
  | some name => type name

-- A pattern for the caller; one that accepts every type also accepts calls from no type.
def callerVerdict (caller : Caller) (pattern : TypePattern) (accepts : String → Bool) : Verdict :=
  if pattern.isTrivial then .yes
  else
    match caller with
    | .type name => .ofBool (accepts name)
    | .absent => .no
    | .unknown => .unknown

-- Does a designator select a method when called from there?
def Designator.verdict (types : Hierarchy) (caller : Caller) (j : MethodJoint) :
    Designator → Verdict
  | execution p => .ofBool (p.accepts types j)
  | within p => callerVerdict caller p (p.accepts types)
  | annotatedWithin p =>
    callerVerdict caller p fun name => (types.get? name).any (p.acceptsAnnotation ·.annotations)
  | annotatedExecution p => .ofBool (p.acceptsAnnotation j.method.annotations)
  | target p => .ofBool (p.accepts types j.declaring.name)
  | annotatedTarget p => .ofBool (p.acceptsAnnotation j.declaring.annotations)
  | autowire _ | annotatedAutowire _ => .no

def Designator.selectsField (types : Hierarchy) (j : FieldJoint) : Designator → Bool
  | autowire p => p.accepts types j
  | annotatedAutowire p => p.acceptsAnnotation j.field.annotations
  | target p => p.accepts types j.declaring.name
  | annotatedTarget p => p.acceptsAnnotation j.declaring.annotations
  | execution _ | within _ | annotatedWithin _ | annotatedExecution _ => false

-- Does the execution side hold of a method?
def verdict (types : Hierarchy) (caller : Caller) (j : MethodJoint) : Pointcut → Verdict
  | leaf _ d => d.verdict types caller j
  | and _ l r => (l.verdict types caller j).and (r.verdict types caller j)
  | or _ l r => (l.verdict types caller j).or (r.verdict types caller j)
  | not _ p => (p.verdict types caller j).not
  | divergent e _ => e.verdict types caller j

def selectsMethod (p : Pointcut) (types : Hierarchy) (caller : Option String) (j : MethodJoint) :
    Bool :=
  p.isExecution && p.verdict types (.ofOption caller) j == .yes

-- Matches calls of a method from some callers, as far as can be told without them.
def maySelectMethod (p : Pointcut) (types : Hierarchy) (j : MethodJoint) : Bool :=
  p.isExecution && p.verdict types .unknown j != .no

def selectsField (types : Hierarchy) (j : FieldJoint) : Pointcut → Bool
  | leaf domain d => domain == .autowire && d.selectsField types j
  | and domain l r =>
    domain == .autowire && (l.selectsField types j && r.selectsField types j)
  | or domain l r =>
    domain == .autowire && (l.selectsField types j || r.selectsField types j)
  | not domain p => domain == .autowire && !p.selectsField types j
  | divergent _ w => w.selectsField types j

end Interpose.Pointcut
