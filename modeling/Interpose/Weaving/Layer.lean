import Interpose.Metadata.Hierarchy
import Interpose.Weaving.Advice
import Interpose.Weaving.Config

namespace Interpose

-- Advices by join points.
abbrev AdvisorTable (κ σ : Type) := List (κ × Advisors σ)

namespace AdvisorTable

variable {κ σ : Type}

-- Adds an advice at a join point; join points are told apart by `key`.
def attach (key : κ → String × String) (j : κ) (a : Advice σ) :
    AdvisorTable κ σ → AdvisorTable κ σ
  | [] => [(j, Ranked.empty.insert a)]
  | (j', s) :: rest =>
    if key j' = key j then (j', s.insert a) :: rest else (j', s) :: attach key j a rest

def ofAttachments (key : κ → String × String) (l : List (κ × Advice σ)) : AdvisorTable κ σ :=
  l.foldl (fun t e => attach key e.1 e.2 t) []

def find? (key : κ → String × String) (j : κ) (t : AdvisorTable κ σ) : Option (Advisors σ) :=
  (List.find? (fun e => key e.1 == key j) t).map (·.2)

end AdvisorTable

-- What came out of weaving, in numbers.
structure WeaveSummary where
  aspects : Nat
  advices : Nat
  dummies : Nat
  proxies : Nat
  methods : Nat
  fields : Nat
  deriving DecidableEq, Repr

def WeaveSummary.text (s : WeaveSummary) : String :=
  toString s.aspects ++ " aspect(s), " ++ toString s.advices ++ " advice(s) (" ++
    toString s.dummies ++ " dummy), " ++ toString s.proxies ++ " proxied type(s), " ++
    toString s.methods ++ " method(s) and " ++ toString s.fields ++ " field(s) intercepted"

structure Layer (σ : Type) where
  types : Hierarchy
  methodAdvisors : AdvisorTable MethodJoint σ
  fieldAdvisors : AdvisorTable FieldJoint σ
  -- The types with advices on them, by what the advices are on.
  proxies : List String
  allocationWoven : List String
  initializationWoven : List String
  fieldsWoven : List String
  -- The advices that apply nowhere.
  dummies : List (Advice σ)
  summary : WeaveSummary
  closed : Bool

namespace Layer

variable {σ : Type}

-- The types that advices may apply to.
def candidates (types : Hierarchy) : List TypeDescription := types.types.filter fun t => !t.isAspect

def aspectNames (types : Hierarchy) : List String :=
  (types.types.filter (·.isAspect)).map (·.name)

-- The methods of a type that advices may apply to.
def methodCandidates (t : TypeDescription) : List MethodJoint :=
  t.methodJoints.filter (·.method.isAdvisable)

-- The fields of a type that advices may apply to.
def fieldCandidates (t : TypeDescription) : List FieldJoint :=
  t.fieldJoints.filter (·.field.isInjected)

-- The methods that an advice may apply to when called from somewhere.
def advisedMethods (types : Hierarchy) (a : Advice σ) : List MethodJoint :=
  ((candidates types).flatMap methodCandidates).filter (a.pointcut.maySelectMethod types)

-- The fields that an advice applies to.
def advisedFields (types : Hierarchy) (a : Advice σ) : List FieldJoint :=
  ((candidates types).flatMap fieldCandidates).filter fun j =>
    a.pointcut.isAutowire && a.pointcut.selectsField types j

def isDummy (types : Hierarchy) (a : Advice σ) : Bool :=
  (advisedMethods types a).isEmpty && (advisedFields types a).isEmpty

def bare (types : Hierarchy) : Layer σ where
  types := types
  methodAdvisors := []
  fieldAdvisors := []
  proxies := []
  allocationWoven := []
  initializationWoven := []
  fieldsWoven := []
  dummies := []
  summary := ⟨(aspectNames types).length, 0, 0, 0, 0, 0⟩
  closed := false

-- The layer of advices that may all apply nowhere.
def cover (types : Hierarchy) (advices : List (Advice σ)) : Layer σ :=
  let methods := AdvisorTable.ofAttachments MethodJoint.key
    (advices.flatMap fun a => (advisedMethods types a).map (·, a))
  let fields := AdvisorTable.ofAttachments FieldJoint.key
    (advices.flatMap fun a => (advisedFields types a).map (·, a))
  let joints := methods.map (·.1)
  let ofKind (k : MethodRole) : List String :=
    ((joints.filter (·.method.kind == k)).map (·.declaring.name)).eraseDups
  let wired := (fields.map (·.1.declaring.name)).eraseDups
  let proxies := (joints.map (·.declaring.name) ++ wired).eraseDups
  let dummies := advices.filter (isDummy types)
  { types
    methodAdvisors := methods
    fieldAdvisors := fields
    proxies
    allocationWoven := ofKind .allocation
    initializationWoven := ofKind .initialization
    fieldsWoven := wired
    dummies
    summary := {
      aspects := (aspectNames types).length
      advices := advices.length
      dummies := dummies.length
      proxies := proxies.length
      methods := methods.length
      fields := fields.length }
    closed := false }

-- The layer that advices make over types.
def weave (types : Hierarchy) (advices : List (Advice σ)) (config : WeavingConfig) :
    Except WeavingError (Layer σ) :=
  if !config.enabled then .ok (bare types)
  else
    match config.failOnDummy, advices.find? (isDummy types) with
    | true, some a => .error (.dummy a.name)
    | _, _ => .ok (cover types advices)

-- What is to be said of the advices that apply nowhere.
def warnings (l : Layer σ) : List String :=
  l.dummies.map fun a =>
    "Dummy advice " ++ a.name ++ " matches no join point: " ++ a.pointcut.text

def isAspect (l : Layer σ) (typeName : String) : Bool := (aspectNames l.types).contains typeName

-- Some member of the type has an advice.
def hasProxy (l : Layer σ) (typeName : String) : Bool := l.proxies.contains typeName

-- The allocation of the type has an advice.
def weavesAllocation (l : Layer σ) (typeName : String) : Bool := l.allocationWoven.contains typeName

-- The initialization of the type has an advice.
def weavesInitialization (l : Layer σ) (typeName : String) : Bool :=
  l.initializationWoven.contains typeName

-- Some field of the type has an advice.
def weavesFields (l : Layer σ) (typeName : String) : Bool := l.fieldsWoven.contains typeName

-- The fields of a type that the container fills, in order of their names.
def autowiring (l : Layer σ) (typeName : String) : List (String × FieldJoint) :=
  match l.types.get? typeName with
  | some t =>
    let table := (fieldCandidates t).foldl
      (fun table j => table.filter (·.1 != j.name) ++ [(j.name, j)]) []
    table.mergeSort fun a b => decide (a.1 ≤ b.1)
  | none => []

def onMethod (l : Layer σ) (j : MethodJoint) : Option (Advisors σ) :=
  AdvisorTable.find? MethodJoint.key j l.methodAdvisors

def onField (l : Layer σ) (j : FieldJoint) : Option (Advisors σ) :=
  AdvisorTable.find? FieldJoint.key j l.fieldAdvisors

-- Lets go of the advices; what they made of the types remains.
def close (l : Layer σ) : Layer σ :=
  { l with methodAdvisors := [], fieldAdvisors := [], closed := true }

def inspect (l : Layer σ) : String :=
  let set (names : List String) : String :=
    Text.braced ((names.mergeSort fun a b => decide (a ≤ b)).map Text.quoted)
  Text.record "AdvisementLayer" [
    ("aspects", set (aspectNames l.types)), ("proxies", set l.proxies),
    ("closed", toString l.closed)]

end Layer
end Interpose
