import Interpose.Metadata.Description

namespace Interpose

-- Types in order of arrival.
structure Hierarchy where
  types : List TypeDescription
  nodup : (types.map (·.name)).Nodup := by simp

namespace Hierarchy

def empty : Hierarchy := ⟨[], by simp⟩

def get? (s : Hierarchy) (name : String) : Option TypeDescription := s.types.find? (·.name == name)

def names (s : Hierarchy) : List String := s.types.map (·.name)

def contains (s : Hierarchy) (name : String) : Bool := s.names.contains name

def size (s : Hierarchy) : Nat := s.types.length

def isEmpty (s : Hierarchy) : Bool := s.types.isEmpty

theorem nodup_append {s : Hierarchy} {t : TypeDescription} (h : s.contains t.name = false) :
    ((s.types ++ [t]).map (·.name)).Nodup := by
  have h' : t.name ∉ s.types.map (·.name) := by
    intro hm; simp only [contains, names, List.contains_eq_mem, decide_eq_false_iff_not] at h
    exact h hm
  simp only [List.map_append, List.map_cons, List.map_nil, List.nodup_append]
  exact ⟨s.nodup, by simp, by simp only [List.mem_singleton]; rintro a ha b rfl rfl; exact h' ha⟩

-- Adds a type behind the others, unless there is one of its name.
def insert (s : Hierarchy) (t : TypeDescription) : Hierarchy :=
  if h : s.contains t.name = false then ⟨s.types ++ [t], nodup_append h⟩ else s

def ofList (ts : List TypeDescription) : Hierarchy := ts.foldl insert empty

-- The supertypes that a type of the set declares.
def declared (s : Hierarchy) (name : String) : List String :=
  ((s.get? name).map (·.supertypes)).getD []

-- The names one step above a level that have not been met before.
def nextLevel (s : Hierarchy) (met level : List String) : List String :=
  ((level.flatMap s.declared).filter fun n => !met.contains n).eraseDups

-- The levels above a level, nearest first.
def levelsAbove (s : Hierarchy) : Nat → List String → List String → List String
  | 0, _, _ => []
  | bound + 1, met, level =>
    let next := s.nextLevel met level
    if next.isEmpty then [] else next ++ s.levelsAbove bound (met ++ next) next

-- Every level but the last has a name that no level before it has, and all of them are declared
-- somewhere, so there are no more levels than declarations.
def levelBound (s : Hierarchy) : Nat := (s.types.flatMap (·.supertypes)).length

-- All types above a type, without itself: level by level, nearest first, each once.
def ancestors (s : Hierarchy) (name : String) : List String :=
  s.levelsAbove s.levelBound [name] [name]

-- A value of the type `actual` may stand where one of type `declared` is wanted.
def conforms (s : Hierarchy) (declared actual : String) : Bool :=
  declared == actual || (s.ancestors actual).contains declared

-- The types of the set whose values may stand for `declared`.
def conforming (s : Hierarchy) (declared : String) : List TypeDescription :=
  s.types.filter fun t => s.conforms declared t.name

end Hierarchy
end Interpose
