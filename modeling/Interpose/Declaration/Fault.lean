import Interpose.Source.Attribute

namespace Interpose.Declaration

-- Why a declaration is not accepted.
inductive Fault where
  -- Source text cannot be read.
  | refused (r : Source.Refusal)
  -- Components.
  | genericComponent
  | positionalFields
  | noStruct
  | repeatedName
  | unknownNameArgument
  | notShared
  | untypedHandle
  | repeatedScope
  | unknownScope (scope : String)
  -- Methods.
  | methodsOfTrait
  | genericBlock
  | asynchronousMethod
  | genericMethod
  | referenceParameter
  -- Aspects.
  | unfitBlock
  | unknownPrivilegeArgument
  | repeatedPrivilege
  | privilegeAlone
  | unfitAdvice
  | noAdvice
  deriving DecidableEq, Repr

def Fault.message? : Fault → Option String
  | refused .unreadable => none
  | refused .objectWithoutTrait => some "at least one trait is required for an object type"
  | refused .implWithoutTrait => some "at least one trait must be specified"
  | refused .misplacedCapture =>
    some "`use<...>` precise capturing syntax is not allowed here"
  | refused .misplacedConstancy => some "`const` is not allowed here"
  | refused .misplacedMaybeConstancy => some "`[const]` is not allowed here"
  | refused .boundQuestion =>
    some "`for<...>` binder not allowed with `?` trait polarity modifier"
  | genericComponent => some "#[derive(Component)] does not support generic types"
  | positionalFields => some "#[derive(Component)] needs named fields"
  | noStruct => some "#[derive(Component)] only supports structs"
  | repeatedName => some "duplicate #[component] attribute"
  | unknownNameArgument => some "expected `name = \"...\"`"
  | notShared => some "#[autowired] fields must be `Arc<T>`"
  | untypedHandle =>
    some ("`Arc<ComponentRef>` fields need the component type: " ++
      "#[autowired(\"com.acme.Repository\")]")
  | repeatedScope => some "a component declares at most one #[scope]"
  | unknownScope scope =>
    some ("unknown scope '" ++ scope ++ "', expected \"singleton\" or \"prototype\"")
  | methodsOfTrait => some "#[component_methods] goes on an inherent impl block"
  | genericBlock => some "#[component_methods] does not support generic impls"
  | asynchronousMethod => some "component methods cannot be async"
  | genericMethod => some "component methods cannot be generic"
  | referenceParameter => some "take `Arc<T>` or an owned value instead of a reference"
  | unfitBlock => some "#[aspect] goes on a non-generic inherent impl block"
  | unknownPrivilegeArgument => some "expected `privilege = <integer>`"
  | repeatedPrivilege => some "duplicate #[privilege]"
  | privilegeAlone => some "#[privilege] needs at least one #[around]"
  | unfitAdvice =>
    some "advice methods take `&self` and a `&JoinPoint<'_>` and return `anyhow::Result<Value>`"
  | noAdvice => some "#[aspect] impl block declares no #[around] advice"

abbrev Result (α : Type) := Except Fault α

def readable {α : Type} (r : Source.Reading α) : Result α := r.mapError .refused

def unreadable {α : Type} : Result α := .error (.refused .unreadable)

-- What was given to a name; another name is a fault of the given kind.
def named {α : Type} (unknown : Fault) : Except Source.NestedFault α → Result α
  | .ok a => .ok a
  | .error .unreadable => unreadable
  | .error .unknownName => .error unknown

end Interpose.Declaration
