import Interpose.Metadata.Description

namespace Interpose

-- A join point as it is known before anything runs.
structure MethodJoint where
  declaring : TypeDescription
  method : Method

namespace MethodJoint

def name (j : MethodJoint) : String := j.method.name

-- What join points are told apart and ordered by.
def key (j : MethodJoint) : String × String := (j.declaring.name, j.name)

def signature (j : MethodJoint) : String := j.declaring.name ++ "." ++ j.name

def text (j : MethodJoint) : String :=
  j.method.returnType ++ " " ++ j.signature ++ "(" ++ ", ".intercalate j.method.params ++ ")"

end MethodJoint

structure FieldJoint where
  declaring : TypeDescription
  field : Field

namespace FieldJoint

def name (j : FieldJoint) : String := j.field.name

def key (j : FieldJoint) : String × String := (j.declaring.name, j.name)

def signature (j : FieldJoint) : String := j.declaring.name ++ "." ++ j.name

def text (j : FieldJoint) : String := j.field.fieldType ++ " " ++ j.signature

end FieldJoint

namespace TypeDescription

def methodJoints (t : TypeDescription) : List MethodJoint := t.methods.map (⟨t, ·⟩)

def fieldJoints (t : TypeDescription) : List FieldJoint := t.fields.map (⟨t, ·⟩)

def methodJoint? (t : TypeDescription) (name : String) : Option MethodJoint :=
  (t.method? name).map (⟨t, ·⟩)

def fieldJoint? (t : TypeDescription) (name : String) : Option FieldJoint :=
  (t.field? name).map (⟨t, ·⟩)

end TypeDescription

inductive Joint where
  | method (j : MethodJoint)
  | field (j : FieldJoint)

namespace Joint

def name : Joint → String
  | method j => j.name
  | field j => j.name

def declaring : Joint → TypeDescription
  | method j => j.declaring
  | field j => j.declaring

def signature : Joint → String
  | method j => j.signature
  | field j => j.signature

def text : Joint → String
  | method j => j.text
  | field j => j.text

def inspect : Joint → String
  | method j => "Method(MethodJoint(" ++ j.signature ++ "))"
  | field j => "Field(FieldJoint(" ++ j.signature ++ "))"

-- Methods come before fields; among either, join points are ordered by declaring type, then by
-- name.
def rank : Joint → Nat × String × String
  | method j => (0, j.key)
  | field j => (1, j.key)

def order (a b : Joint) : Ordering :=
  (compare a.rank.1 b.rank.1).then
    ((compare a.rank.2.1 b.rank.2.1).then (compare a.rank.2.2 b.rank.2.2))

end Joint
end Interpose
