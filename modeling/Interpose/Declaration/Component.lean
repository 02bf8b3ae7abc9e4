import Interpose.Component.Definition
import Interpose.Declaration.Fault
import Interpose.Source.Compact
import Interpose.Source.ItemReader

namespace Interpose.Declaration

open Source

-- The type that a field is described with.
inductive DescribedType where
  | given (l : TextLiteral)
  -- The name of a component.
  | named (inner : TypeExpr)
  deriving Repr

structure DescribedField where
  key : String
  type : DescribedType
  deriving Repr

-- What a field of a new instance starts with.
inductive Start where
  | byDefault
  -- The handle of a component.
  | byHandle (key : String)
  | byInstance (key : String) (type : TypeExpr)
  deriving Repr

structure DerivedField where
  name : String
  described : Option DescribedField
  start : Start
  deriving Repr

structure DerivedComponent where
  -- The name of the declared type.
  item : String
  -- The name of the component.
  name : TextLiteral
  supertypes : List TextLiteral
  annotations : List TextLiteral
  fields : List DerivedField
  scope : Option Scope
  lazy : Bool
  -- The method that is called on a new instance.
  init : Option String
  deriving Repr

def attributesNamed (attributes : List Attribute) (name : String) : List Attribute :=
  attributes.filter (·.isNamed name)

def firstNamed (attributes : List Attribute) (name : String) : Option Attribute :=
  attributes.find? (·.isNamed name)

def optionalText (a : Attribute) : Result (Option TextLiteral) :=
  match a.given with
  | .nothing => .ok none
  | _ => (readable (a.read Reader.textLiteral)).map some

-- The name in an attribute, alone or behind the word for it.
def nameIn (a : Attribute) : Result (Option TextLiteral) :=
  match a.read Reader.textLiteral, a.given with
  | .ok l, _ => .ok (some l)
  | .error _, .arguments _ content =>
    named .unknownNameArgument (namedValue "name" Reader.textLiteral content)
  | .error _, _ => unreadable

-- The name that the attributes give to a component. An attribute without a name is as good as none.
def givenName (attributes : List Attribute) : Result (Option TextLiteral) :=
  (attributesNamed attributes "component").foldlM (fun found a =>
    if found.isSome then .error .repeatedName else nameIn a) none

def textsOf (attributes : List Attribute) (name : String) : Result (List TextLiteral) := do
  let texts ← (attributesNamed attributes name).mapM fun a =>
    readable (a.read Reader.textLiterals)
  return texts.flatten

def scopeNamed : String → Result Scope
  | "singleton" => .ok .singleton
  | "prototype" => .ok .prototype
  | scope => .error (.unknownScope scope)

def givenScope (attributes : List Attribute) : Result (Option Scope) :=
  match attributesNamed attributes "scope" with
  | [] => .ok none
  | [a] => do return some (← scopeNamed (← readable (a.read Reader.textLiteral)).value)
  | _ => .error .repeatedScope

def methodIn (l : TextLiteral) : Result String :=
  if l.hasSuffix then unreadable else readable do Reader.identifier.only (← scanned l.value)

def givenInit (attributes : List Attribute) : Result (Option String) :=
  match firstNamed attributes "init" with
  | none => .ok none
  | some a => do
    match ← optionalText a with
    | none => return some "init"
    | some l => return some (← methodIn l)

def describedType (inner : TypeExpr) : Option TextLiteral → Result DescribedType
  | some l => .ok (.given l)
  | none => if inner.isNamed "ComponentRef" then .error .untypedHandle else .ok (.named inner)

def startOf (key : String) (inner : TypeExpr) : Start :=
  if inner.isNamed "ComponentRef" then .byHandle key else .byInstance key inner

-- All fields that are not marked as autowired start with their defaults.
def deriveField (f : Source.Field) : Result DerivedField :=
  match firstNamed f.attributes "autowired" with
  | none => .ok ⟨f.name, none, .byDefault⟩
  | some a => do
    let given ← optionalText a
    match f.type.sharedInner with
    | none => throw .notShared
    | some inner =>
      let type ← describedType inner given
      return ⟨f.name, some ⟨f.name, type⟩, startOf f.name inner⟩

-- The fields of a type that has names for them.
def namedFields : Shape → Result (List Source.Field)
  | .named fields => .ok fields
  | .positional => .error .positionalFields
  | .alternatives => .error .noStruct

def DerivedComponent.ofItem (t : TypeItem) : Result DerivedComponent := do
  if t.generic then throw .genericComponent
  let name := (← givenName t.attributes).getD (.ofValue t.name)
  let fields ← (← namedFields t.shape).mapM deriveField
  let supertypes ← textsOf t.attributes "extends"
  let annotations ← textsOf t.attributes "annotate"
  let scope ← givenScope t.attributes
  let init ← givenInit t.attributes
  return {
    item := t.name, name, supertypes, annotations, fields, scope, init
    lazy := (firstNamed t.attributes "lazy").isSome }

def inBraces (s : String) : String := "\x7b" ++ s ++ "\x7d"

def ownName (type : String) : String := "<" ++ type ++ " as ::weft_core::Component>::NAME"

-- The described field, where components have the given names.
def DescribedField.describe (componentName : TypeExpr → String) (f : DescribedField) :
    Interpose.Field :=
  .plain f.key <|
    match f.type with
    | .given l => l.value
    | .named inner => componentName inner

def DescribedField.text (f : DescribedField) : String :=
  ".field(::weft_core::FieldDescriptor::new(" ++ Text.quoted f.key ++ ", " ++
    (match f.type with
      | .given l => l.spelling
      | .named inner => ownName inner.text) ++ "))"

-- The value that a field gets from a wiring; none is the default.
def Start.run (kindOf : TypeExpr → Kind Value) (w : Wiring) :
    Start → Except ContainerError (Option Value)
  | byDefault => .ok none
  | byHandle key => (w.component key).map fun h => some h.toValue
  | byInstance key type => (w.get (kindOf type) key).map some

def Start.text : Start → String
  | byDefault => "::core::default::Default::default()"
  | byHandle key => "wiring.component(" ++ Text.quoted key ++ ")?"
  | byInstance key type => "wiring.get::<" ++ type.text ++ ">(" ++ Text.quoted key ++ ")?"

namespace DerivedComponent

def described (d : DerivedComponent) : List DescribedField := d.fields.filterMap (·.described)

-- The description of the component, where components have the given names.
def description (componentName : TypeExpr → String) (d : DerivedComponent) : TypeDescription :=
  { TypeDescription.plain d.name.value with
    supertypes := d.supertypes.map (·.value)
    annotations := d.annotations.map fun a => ⟨a.value, []⟩
    fields := d.described.map (·.describe componentName) }

-- The values that the fields of a new instance get from a wiring, in order of declaration, up to
-- the first that is not there.
def allocate (kindOf : TypeExpr → Kind Value) (d : DerivedComponent) (w : Wiring) :
    Except ContainerError (List (String × Option Value)) :=
  d.fields.mapM fun f => do return (f.name, ← f.start.run kindOf w)

-- The definition of the component. A new instance is made from the values of its fields; `init` is
-- the code of a method that is called on it.
def define {σ α : Type} (componentName : TypeExpr → String) (kindOf : TypeExpr → Kind Value)
    (d : DerivedComponent) (k : Kind α) (make : List (String × Option Value) → Action σ Value)
    (init : String → α → Action σ Unit) : Definition σ :=
  let base := Definition.make (d.description componentName) fun w => do
    make (← .check (d.allocate kindOf w))
  let base := (d.scope.map base.setScope).getD base
  let base := if d.lazy then base.setLazy true else base
  (d.init.map fun method => base.setInit k (init method)).getD base

def descriptionText (d : DerivedComponent) : String :=
  "::weft_core::TypeDescriptor::new(" ++ ownName "Self" ++ ")" ++
    String.join (d.supertypes.map fun l => ".extends(" ++ l.spelling ++ ")") ++
    String.join (d.annotations.map fun l =>
      ".annotate(::weft_core::Annotation::new(" ++ l.spelling ++ "))") ++
    String.join (d.described.map DescribedField.text)

def settings (d : DerivedComponent) : String :=
  (match d.scope with
    | some scope => ".with_scope(::weft_core::Scope::" ++ scope.label ++ ")"
    | none => "") ++
  (if d.lazy then ".with_lazy(true)" else "") ++
  (match d.init with
    | some method => ".with_init(|this: &Self| this." ++ method ++ "())"
    | none => "")

def text (d : DerivedComponent) : String :=
  compact <|
    "impl ::weft_core::Component for " ++ d.item ++ inBraces (
      "const NAME: &'static str = " ++ d.name.spelling ++ ";" ++
      "fn descriptor() -> ::weft_core::TypeDescriptor " ++ inBraces d.descriptionText ++
      "#[allow(unused_variables)]" ++
      "fn allocate(wiring: &::weft_core::Wiring) -> ::weft_core::Result<Self> " ++
      inBraces ("::core::result::Result::Ok(Self " ++
        inBraces (", ".intercalate (d.fields.map fun f => f.name ++ ": " ++ f.start.text)) ++
        ")") ++
      "fn configure(definition: ::weft_core::ComponentDefinition) -> " ++
      "::weft_core::ComponentDefinition " ++ inBraces ("definition" ++ d.settings)) ++
    "::weft_core::inventory::submit! " ++ inBraces (
      "::weft_core::ComponentRegistration " ++ inBraces (
        "name: " ++ ownName d.item ++ "," ++
        "create: <" ++ d.item ++ " as ::weft_core::Component>::definition,"))

end DerivedComponent

-- Derives a component from source text.
def componentText (source : String) : Result String := do
  return (← DerivedComponent.ofItem (← readable (TypeItem.parse source))).text

end Interpose.Declaration
