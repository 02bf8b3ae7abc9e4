import Interpose.Component.Definition
import Interpose.Metadata.Hierarchy

namespace Interpose

structure Registry (σ : Type) where
  definitions : List (Definition σ)
  nodup : (definitions.map (·.name)).Nodup := by simp

namespace Registry

variable {σ : Type}

def empty : Registry σ := ⟨[], by simp⟩

def get? (r : Registry σ) (name : String) : Option (Definition σ) :=
  r.definitions.find? (·.name == name)

def names (r : Registry σ) : List String := r.definitions.map (·.name)

def contains (r : Registry σ) (name : String) : Bool := r.names.contains name

def size (r : Registry σ) : Nat := r.definitions.length

def isEmpty (r : Registry σ) : Bool := r.definitions.isEmpty

theorem nodup_append {r : Registry σ} {d : Definition σ} (h : r.contains d.name = false) :
    ((r.definitions ++ [d]).map (·.name)).Nodup := by
  have h' : d.name ∉ r.definitions.map (·.name) := by
    intro hm
    simp only [contains, names, List.contains_eq_mem, decide_eq_false_iff_not] at h
    exact h hm
  simp only [List.map_append, List.map_cons, List.map_nil, List.nodup_append]
  exact ⟨r.nodup, by simp, by simp only [List.mem_singleton]; rintro a ha b rfl rfl; exact h' ha⟩

-- Adds a component that keeps to the rules and whose name is free.
def register (r : Registry σ) (d : Definition σ) : Except ContainerError (Registry σ) := do
  let d ← d.validate
  if h : r.contains d.name = false then
    return { definitions := r.definitions ++ [d], nodup := nodup_append h }
  else throw (.duplicateComponent d.name)

def hierarchy (r : Registry σ) : Hierarchy := .ofList (r.definitions.map (·.type))

-- The component for a type: the one of this name, or else the only one that may stand for it.
def resolve (r : Registry σ) (types : Hierarchy) (typeName : String) :
    Except ContainerError (Definition σ) :=
  match r.get? typeName with
  | some d => .ok d
  | none =>
    match (types.conforming typeName).filterMap fun t => r.get? t.name with
    | [] => .error (.componentNotFound typeName)
    | [d] => .ok d
    | many => .error (.ambiguousComponent typeName (many.map (·.name)))

end Registry
end Interpose
