import Interpose.Component.Definition
import Interpose.Table
import Interpose.Weaving.Advice

namespace Interpose

-- A component with the code of its advice methods beside it.
structure Aspect (σ : Type) where
  component : Definition σ
  -- The code of the advice methods, by their names.
  advices : List (String × AdviceBody σ)

-- Gives a type the annotation of aspects, if it has none.
def TypeDescription.asAspect (t : TypeDescription) : TypeDescription :=
  if t.isAspect then t else t.annotate ⟨ aspectAnnotation, []⟩

namespace Aspect

variable {σ α : Type}

def ofComponent (d : Definition σ) : Aspect σ :=
  ⟨{ d with type := d.type.asAspect }, []⟩

def make (type : TypeDescription) (allocator : AllocationCode σ) : Aspect σ :=
  ⟨.make type.asAspect allocator, []⟩

def ofInstance (type : TypeDescription) (i : Value) : Aspect σ :=
  ⟨.ofInstance type.asAspect i, []⟩

def name (a : Aspect σ) : String := a.component.name

-- The privilege of the advices that declare none themselves.
def withPrivilege (a : Aspect σ) (level : Int) : Aspect σ :=
  { a with component := a.component.annotate ⟨ privilegeAnnotation, [toString level]⟩ }

def addField (a : Aspect σ) (f : Field) : Aspect σ :=
  { a with component := a.component.addField f }

def setScope (a : Aspect σ) (scope : Scope) : Aspect σ :=
  { a with component := a.component.setScope scope }

-- Declares an advice method with its code, which wants an instance of a kind.
def around (a : Aspect σ) (m : Method) (k : Kind α)
    (body : α → (jp : JoinPoint) → Behaviour σ jp.requests Value) : Aspect σ where
  component := a.component.describeMethod m
  advices := setEntry a.advices m.name fun this jp => do body (← .check (k.cast this)) jp

def adviceNames (a : Aspect σ) : List String :=
  (a.advices.map (·.1)).mergeSort fun a b => decide (a ≤ b)

def inspect (a : Aspect σ) : String :=
  Text.record "AspectDefinition" [
    ("name", Text.quoted a.name),
    ("advices", Text.bracketed (a.adviceNames.map Text.quoted))]

end Aspect

-- The code of advices by aspect and method.
structure Catalog (σ : Type) where
  aspects : List (String × List (String × AdviceBody σ))

namespace Catalog

variable {σ : Type}

def empty : Catalog σ := ⟨[]⟩

-- Adds the advices of an aspect to those that it has.
def insert (c : Catalog σ) (aspect : String) (advices : List (String × AdviceBody σ)) :
    Catalog σ :=
  let old := (c.aspects.lookup aspect).getD []
  ⟨setEntry c.aspects aspect (advices.foldl (fun t e => setEntry t e.1 e.2) old)⟩

def body? (c : Catalog σ) (aspect method : String) : Option (AdviceBody σ) :=
  (c.aspects.lookup aspect).bind (·.lookup method)

def contains (c : Catalog σ) (aspect : String) : Bool := (c.aspects.lookup aspect).isSome

def size (c : Catalog σ) : Nat := c.aspects.length

def isEmpty (c : Catalog σ) : Bool := c.aspects.isEmpty

def inspect (c : Catalog σ) : String :=
  Text.record "AspectCatalog" [
    ("aspects", Text.bracketed
      (((c.aspects.map (·.1)).mergeSort fun a b => decide (a ≤ b)).map Text.quoted))]

end Catalog
end Interpose
