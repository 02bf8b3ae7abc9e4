namespace Interpose

-- The components that are being created, the outermost first.
structure CreationChain where
  names : List String
  deriving DecidableEq, Repr

namespace CreationChain

def empty : CreationChain := ⟨[]⟩

-- The names from the first occurrence of a name on.
def since (c : CreationChain) (name : String) : List String := c.names.dropWhile (· != name)

-- Begins the creation of a component. If that is going on already, the cycle is reported, with the
-- name at both ends.
def start (c : CreationChain) (name : String) : Except (List String) CreationChain :=
  if c.names.contains name then .error (c.since name ++ [name]) else .ok ⟨c.names ++ [name]⟩

-- Ends the creation of a component, the innermost of this name.
def finish (c : CreationChain) (name : String) : CreationChain :=
  ⟨(c.names.reverse.erase name).reverse⟩

-- What was begun last and is ended leaves no trace.
theorem finish_start {c d : CreationChain} {name : String} (h : c.start name = .ok d) :
    d.finish name = c := by
  unfold start at h
  split at h
  · cases h
  · cases h
    simp [finish]

end CreationChain
end Interpose
