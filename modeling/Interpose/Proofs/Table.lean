import Interpose.Table
import Interpose.Proofs.Keyed

namespace Interpose

variable {β : Type} {table l : List (String × β)} {key name : String} {b : β}

theorem isSome_lookup : (table.lookup key).isSome ↔ key ∈ table.map (·.1) := by
  induction table
  case nil => simp
  case cons e table hi =>
    rw [List.lookup_cons, List.map_cons, List.mem_cons, ← hi]
    by_cases h : key = e.1
    case pos => simp [h]
    case neg => simp [h, beq_false_of_ne h]

theorem keys_setEntry (table : List (String × β)) (name : String) (b : β) :
    (setEntry table name b).map (·.1) = (table.map (·.1)).filter (· != name) ++ [name] := by
  rw [setEntry, List.map_append, List.filter_map]
  rfl

theorem nodup_setEntry (h : (table.map (·.1)).Nodup) :
    ((setEntry table name b).map (·.1)).Nodup := by
  rw [keys_setEntry]
  refine (h.filter _).append (List.nodup_singleton name) ?_
  simp [List.disjoint_singleton]

theorem mem_keys_setEntry :
    key ∈ (setEntry table name b).map (·.1) ↔ key = name ∨ key ∈ table.map (·.1) := by
  rw [keys_setEntry]
  by_cases h : key = name <;> simp [h]

theorem lookup_setEntry (table : List (String × β)) (name : String) (b : β) (key : String) :
    (setEntry table name b).lookup key = if key = name then some b else table.lookup key := by
  rw [setEntry, List.lookup_append, Keyed.lookup_filter (· != name)]
  by_cases h : key = name
  case pos => simp [h]
  case neg => simp [h, List.lookup_cons, beq_false_of_ne h]

-- The entries of a list are put into a table one after the other.
def setEntries (table l : List (String × β)) : List (String × β) :=
  l.foldl (fun table e => setEntry table e.1 e.2) table

theorem nodup_setEntries (h : (table.map (·.1)).Nodup) :
    ((setEntries table l).map (·.1)).Nodup := by
  induction l generalizing table
  case nil         => exact h
  case cons e l hi => exact hi (nodup_setEntry h)

theorem mem_keys_setEntries :
    key ∈ (setEntries table l).map (·.1) ↔ key ∈ l.map (·.1) ∨ key ∈ table.map (·.1) := by
  induction l generalizing table
  case nil => simp [setEntries]
  case cons e l hi =>
    rw [setEntries, List.foldl_cons, ← setEntries, hi, mem_keys_setEntry, List.map_cons,
      List.mem_cons, or_left_comm, or_assoc]

-- What is put under a key is kept if nothing else is put there.
theorem lookup_setEntries (h : ∀ e ∈ l, e.1 = key → e.2 = b) :
    (setEntries table l).lookup key =
      if key ∈ l.map (·.1) then some b else table.lookup key := by
  induction l generalizing table
  case nil => rfl
  case cons e l hi =>
    have ⟨he, hl⟩ := List.forall_mem_cons.mp h
    rw [setEntries, List.foldl_cons, ← setEntries, hi hl, lookup_setEntry]
    by_cases hk : key = e.1
    case pos => simp [hk, he hk.symm]
    case neg => simp only [hk, if_false, List.map_cons, List.mem_cons, false_or]

end Interpose
