import Interpose.Metadata.Hierarchy
import Interpose.Pointcut.NamePattern

namespace Interpose

-- One pattern for the package and one for the simple name. A plus at the end of the text takes in
-- the subtypes.
structure TypePattern where
  text : String
  package : NamePattern
  name : NamePattern
  covariant : Bool
  deriving DecidableEq, Repr

namespace TypePattern

-- The text without a plus at its end, if it has one.
def stripPlus (text : String) : Option String :=
  match text.toList.reverse with
  | '+' :: base => some (String.ofList base.reverse)
  | _ => none

-- The package and name patterns of a text without the plus. Without a dot only types outside of
-- packages are meant, except that a lone star means every type.
def nameParts (base : String) : NamePattern × NamePattern :=
  if base = "*" then (.any, .any)
  else
    match splitQualified base with
    | some (package, name) => (.parse package, .parse name)
    | none => (.exact "", .parse base)

def parse (text : String) : TypePattern :=
  let parts := nameParts ((stripPlus text).getD text)
  { text, package := parts.1, name := parts.2, covariant := (stripPlus text).isSome }

def isTrivial (p : TypePattern) : Bool := p.package.isAny && p.name.isAny

-- Accepts a type by its name alone.
def acceptsName (p : TypePattern) (typeName : String) : Bool :=
  p.package.accepts (packagePart typeName) && p.name.accepts (simplePart typeName)

-- Accepts a type by its name or, if the pattern takes in subtypes, by the name of one of its
-- supertypes.
def accepts (p : TypePattern) (types : Hierarchy) (typeName : String) : Bool :=
  p.acceptsName typeName ||
    p.covariant && (types.ancestors typeName).any p.acceptsName

def acceptsAnnotation (p : TypePattern) (annotations : List Annotation) : Bool :=
  annotations.any fun a => p.acceptsName a.typeName

end TypePattern
end Interpose
