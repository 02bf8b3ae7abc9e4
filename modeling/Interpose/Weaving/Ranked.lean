namespace Interpose

-- What applies at one join point, in the order in which it is passed through.
structure Ranked (α : Type) (level : α → Int) where
  advisors : List α
  ascending : advisors.Pairwise (fun a b => level a ≤ level b) := by simp

namespace Ranked

variable {α : Type} {level : α → Int}

def empty : Ranked α level := ⟨[], by simp⟩

def size (s : Ranked α level) : Nat := s.advisors.length

def isEmpty (s : Ranked α level) : Bool := s.advisors.isEmpty

-- A list with a new element behind all that are not above its level.
def place (level : α → Int) (a : α) : List α → List α
  | [] => [a]
  | b :: rest => if level b ≤ level a then b :: place level a rest else a :: b :: rest

theorem mem_place {a b : α} {l : List α} : b ∈ place level a l ↔ b = a ∨ b ∈ l := by
  induction l with
  | nil => simp [place]
  | cons c rest ih =>
    rw [place]
    split
    · simp [ih, or_left_comm]
    · simp

theorem place_ascending {a : α} {l : List α} (h : l.Pairwise fun a b => level a ≤ level b) :
    (place level a l).Pairwise fun a b => level a ≤ level b := by
  induction l with
  | nil => simp [place]
  | cons c rest ih =>
    have ⟨hc, hr⟩ := List.pairwise_cons.1 h
    rw [place]
    split
    · next hca =>
      refine List.pairwise_cons.2 ⟨fun b hb => ?_, ih hr⟩
      rcases mem_place.1 hb with rfl | hb
      · exact hca
      · exact hc b hb
    · next hca =>
      refine List.pairwise_cons.2 ⟨fun b hb => ?_, h⟩
      rcases List.mem_cons.1 hb with rfl | hb
      · omega
      · have := hc b hb; omega

def insert (s : Ranked α level) (a : α) : Ranked α level :=
  ⟨place level a s.advisors, place_ascending s.ascending⟩

end Ranked
end Interpose
