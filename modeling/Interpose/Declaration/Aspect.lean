import Interpose.Declaration.Methods
import Interpose.Weaving.Aspect

namespace Interpose.Declaration

open Source

structure DeclaredAdvice where
  name : String
  expressions : List TextLiteral
  privilege : Option IntegerLiteral
  deriving Repr

-- What makes an aspect of a component.
structure Advising where
  -- The privilege of advices that have none of their own.
  privilege : Option IntegerLiteral
  advices : List DeclaredAdvice
  deriving Repr

structure DeclaredAspect extends Advising where
  -- The block without the attributes of advices.
  block : Block
  deriving Repr

structure AdviceAttributes where
  expressions : List TextLiteral
  privilege : Option IntegerLiteral
  kept : List Attribute

def AdviceAttributes.add (s : AdviceAttributes) (a : Attribute) : Result AdviceAttributes := do
  if a.isNamed "around" then
    let expression ← readable (a.read Reader.textLiteral)
    return { s with expressions := s.expressions ++ [expression] }
  else if a.isNamed "privilege" then
    if s.privilege.isSome then throw .repeatedPrivilege
    return { s with privilege := some (← readable (a.read Reader.integerLiteral)) }
  else return { s with kept := s.kept ++ [a] }

def adviceAttributes (attributes : List Attribute) : Result AdviceAttributes :=
  attributes.foldlM AdviceAttributes.add ⟨[], none, []⟩

-- The function can run as an advice: it takes the instance by a plain reference and one thing more.
def isFitAdvice (f : Function) : Bool :=
  match f.arguments with
  | [(this, _), (.typed _ _, _)] => this.isSharedReceiver && !f.isAsynchronous
  | _ => false

-- Takes the attributes of an advice off a function, and makes an advice of it if it has
-- expressions.
def takeAdvice (f : Function) : Result (Function × Option DeclaredAdvice) := do
  let a ← adviceAttributes f.attributes
  let f := { f with attributes := a.kept }
  if a.expressions.isEmpty then
    if a.privilege.isSome then throw .privilegeAlone
    return (f, none)
  else if !isFitAdvice f then throw .unfitAdvice
  else return (f, some { name := f.name, expressions := a.expressions, privilege := a.privilege })

def takeMember : Member → Result (Member × Option DeclaredAdvice)
  | .function f => do
    let (f, advice) ← takeAdvice f
    return (.function f, advice)
  | .other tokens => .ok (.other tokens, none)

-- Declares the aspect of a block, with what the block is given.
def declareAspect (given : List Token) (b : Block) : Result DeclaredAspect := do
  if b.ofTrait || b.generic then throw .unfitBlock
  let privilege ← named .unknownPrivilegeArgument
    (namedValue "privilege" Reader.integerLiteral given)
  let members ← b.members.mapM takeMember
  let advices := members.filterMap (·.2)
  if advices.isEmpty then throw .noAdvice
  return { block := { b with members := members.map (·.1) }, privilege, advices }

namespace DeclaredAdvice

def description (a : DeclaredAdvice) : Method :=
  let m := a.expressions.foldl (fun m l => m.around l.value) (Method.advice a.name)
  match a.privilege with
  | some level => m.privilege level.value
  | none => m

end DeclaredAdvice

def Advising.define {σ α : Type} (d : Advising) (component : Definition σ)
    (k : Kind α) (code : String → α → (jp : JoinPoint) → Behaviour σ jp.requests Value) :
    Aspect σ :=
  let base := Aspect.ofComponent component
  let base := match d.privilege with
    | some level => base.withPrivilege level.value
    | none => base
  d.advices.foldl (fun aspect a => aspect.around a.description k (code a.name)) base

def privilegeText : Option IntegerLiteral → String
  | some level => ".privilege(" ++ level.spelling ++ ")"
  | none => ""

def DeclaredAdvice.text (owner : String) (a : DeclaredAdvice) : String :=
  ".around(::weft_core::MethodDescriptor::advice(" ++ Text.quoted a.name ++ ")" ++
    String.join (a.expressions.map fun l => ".around(" ++ l.spelling ++ ")") ++
    privilegeText a.privilege ++
    ", |this: &" ++ owner ++ ", jp: &::weft_aop::JoinPoint<'_>| this." ++ a.name ++ "(jp),)"

def DeclaredAspect.text (d : DeclaredAspect) : String :=
  let owner := d.block.type.text
  compact <|
    d.block.text ++ "impl " ++ owner ++ inBraces (
      "#[doc(hidden)] fn __weft_aspect_definition() -> ::weft_aop::AspectDefinition " ++
      inBraces (
        "::weft_aop::AspectDefinition::from_component(" ++
        "<" ++ owner ++ " as ::weft_core::Component>::definition(),)" ++
        privilegeText d.privilege ++
        String.join (d.advices.map (DeclaredAdvice.text owner)))) ++
    "::weft_aop::inventory::submit! " ++ inBraces (
      "::weft_aop::AspectRegistration::new(" ++ ownName owner ++ "," ++
      "<" ++ owner ++ ">::__weft_aspect_definition,)")

-- Declares the aspect of a block of source text, with the text that the block is given.
def aspectText (given source : String) : Result String := do
  let block ← readable (Block.parse source)
  return (← declareAspect (← readable (scanned given)) block).text

end Interpose.Declaration
