import Interpose.Declaration.Methods
import Interpose.Script.Stage

namespace Interpose.Sample

open Declaration Source

inductive Argument where
  | text (s : String)
  | word (n : UInt32)

namespace Argument

def ofValue (type : TypeExpr) (v : Value) : Except ContainerError Argument :=
  if type.isNamed "u32" then (Kind.word.cast v).map .word else (Kind.text.cast v).map .text

def toValue : Argument → Value
  | text s => .text s
  | word n => .word n

def shown : Argument → String
  | text s => s
  | word n => toString n

end Argument

-- A declared method with its function, which only gets arguments of the declared types.
structure Member where
  declared : DeclaredMethod
  run : Instance → List Argument → Action Stage Value

-- A public method with arguments of the given types.
def method (name : String) (types : List String) (outcome : Outcome)
    (run : Instance → List Argument → Action Stage Value) : Member where
  declared := {
    name, isPublic := true, outcome, fallible := false
    signature := types.zipIdx.foldl (fun s t => s.push t.2 (.owned (.plain t.1))) .empty }
  run := run

def giving (type : String) : Outcome := .typed (.plain type)

def reading (name : String) (outcome : Outcome) (run : Instance → Action Stage Value) : Member :=
  method name [] outcome fun i _ => run i

def Member.asPrivate (m : Member) : Member :=
  { m with declared := { m.declared with isPublic := false } }

-- A field that holds a component of a type by its handle.
def handleField (name typeName : String) : DerivedField :=
  ⟨name, some ⟨name, .given (.ofValue typeName)⟩, .byHandle name⟩

def instanceField (name typeName : String) : DerivedField :=
  ⟨name, some ⟨name, .given (.ofValue typeName)⟩, .byInstance name (.plain typeName)⟩

def derived (name : String) (fields : List DerivedField) : DerivedComponent where
  item := simplePart name
  name := .ofValue name
  supertypes := []
  annotations := []
  fields := fields
  scope := none
  lazy := false
  init := none

-- The kind of the instances of a sample type; `home` is the path that all of them are under.
def kindOf (home typeName : String) : Kind Instance :=
  .instanceOf (home ++ "::" ++ simplePart typeName)

def valuesOf (home : String) (type : TypeExpr) : Kind Value :=
  let k := kindOf home type.label
  ⟨k.name, fun v => (k.read? v).map .object⟩

-- What an instance with the given fields keeps in mind.
def remembered (fields : List (String × Option Value)) : Memory :=
  { Memory.blank with
    objects := fields.filterMap fun f =>
      match f.2 with
      | some (.object i) => some (f.1, i)
      | _ => none
    handles := fields.filterMap fun f => (f.2.bind Kind.handle.read?).map (f.1, ·) }

-- A sample component with its methods; `start` runs on every new instance.
def component (home : String) (d : DerivedComponent) (members : List Member)
    (start : Instance → Action Stage Unit) : Definition Stage :=
  let k := kindOf home d.name.value
  let make (fields : List (String × Option Value)) : Action Stage Value := do
    let i ← Behaviour.newPlain k.name
    Behaviour.remember i (remembered fields)
    return .object i
  members.foldl (fun base m => m.declared.define Argument.ofValue k m.run base)
    (d.define TypeExpr.label (valuesOf home) k make fun _ => start)

end Interpose.Sample
