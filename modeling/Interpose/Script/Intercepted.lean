import Interpose.Script.Component
import Interpose.Weaving.Chain

namespace Interpose.Script

-- Allocates an instance that is numbered by its wired fields.
def allocate (kind : String) (w : Wiring) : Action Stage Value := do
  Behaviour.log ("allocate " ++ w.inspect)
  return .object ⟨kind, some ⟨"made", w.size⟩, 0⟩

-- Logs that a target is initialized, and fails if it is to.
def prepare (failure : Option String) (target : Value) : Action Stage Unit := do
  Behaviour.log ("initialize " ++ target.render)
  if let some message := failure then Behaviour.fail (.user message)

-- What is behind a method of the given kind: a deed of the target, an allocation, or an
-- initialization, which may fail.
def intercepted (kind : String) (m : Method) (d : Deed) (failure : Option String) :
    Intercepted Stage :=
  match m.kind with
  | .method => .method fun this args => do
    d.perform m.name (← .check ((Kind.instanceOf kind).cast this)) args
  | .allocation => .allocation (allocate kind)
  | .initialization => .initialization (prepare failure)

-- A provider that logs each request, and fails if it is to.
def provider (typeName : String) (failure : Option String) (v : Value) : Provider Stage where
  typeName := typeName
  supply := do
    Behaviour.log "provide"
    match failure with
    | some message => .fail (.user message)
    | none => return v

end Interpose.Script
