import Mathlib.Data.List.Forall2
import Interpose.Pointcut.MemberPattern

namespace Interpose

theorem suffixes_eq_map {α : Type} (as : List α) :
    suffixes as = (List.range (as.length + 1)).map as.drop := by
  induction as
  case nil          => rfl
  case cons a as hi =>
    rw [List.length_cons, List.range_succ_eq_map]
    simp [suffixes, hi, Function.comp_def]

namespace ParamPattern

variable {types : Hierarchy} {patterns : List ParamPattern} {params : List String}

-- The runs of parameters that a pattern takes.
inductive Takes (types : Hierarchy) : ParamPattern → List String → Prop
  | rest (run : List String) : Takes types rest run
  | one {type : TypePattern} {param : String} : type.accepts types param = true →
    Takes types (one type) [param]

section Cuts

theorem allMatch_rest : allMatch types (rest :: patterns) params = true ↔
    ∃ start ≤ params.length, allMatch types patterns (params.drop start) = true := by
  simp only [allMatch, suffixes_eq_map, List.any_map, List.any_eq_true, List.mem_range,
    Nat.lt_succ_iff, Function.comp_apply]

theorem allMatch_one {type : TypePattern} : allMatch types (one type :: patterns) params = true ↔
    ∃ param behind, params = param :: behind ∧ type.accepts types param = true ∧
      allMatch types patterns behind = true := by
  cases params <;> simp [allMatch]

-- The cuts that the search has found.
theorem exists_runs (h : allMatch types patterns params = true) :
    ∃ runs, runs.flatten = params ∧ List.Forall₂ (Takes types) patterns runs := by
  induction patterns generalizing params
  case nil =>
    simp [allMatch] at h
    exact ⟨[], h.symm, .nil⟩
  case cons pattern patterns hi =>
    cases pattern
    case rest =>
      have ⟨start, _, h⟩ := allMatch_rest.mp h
      have ⟨runs, hr, ht⟩ := hi h
      refine ⟨params.take start :: runs, ?_, .cons (.rest _) ht⟩
      simp [hr]
    case one =>
      have ⟨param, behind, he, ha, h⟩ := allMatch_one.mp h
      have ⟨runs, hr, ht⟩ := hi h
      exact ⟨[param] :: runs, by simp [hr, he], .cons (.one ha) ht⟩

-- Cuts of any kind are as good as those that the search tries first.
theorem allMatch_flatten {runs : List (List String)}
    (h : List.Forall₂ (Takes types) patterns runs) :
    allMatch types patterns runs.flatten = true := by
  induction h
  case nil => rfl
  case cons run patterns runs ht _ hi =>
    cases ht
    case rest   => exact allMatch_rest.mpr ⟨run.length, by simp, by simpa using hi⟩
    case one ha => exact allMatch_one.mpr ⟨_, _, rfl, ha, hi⟩

end Cuts

-- The rest of a list from an index on. There is none from beyond the end.
def fromIndex? {α : Type} (as : List α) (start : Nat) : Option (List α) :=
  if start ≤ as.length then some (as.drop start) else none

-- Two dots are tried with each start up to the end of the list, until the rest of the patterns
-- fits. There is no answer as soon as the list is left.
def search? (types : Hierarchy) : List ParamPattern → List String → Option Bool
  | [], params => some params.isEmpty
  | rest :: patterns, params =>
    (List.range (params.length + 1)).anyM fun start => do
      search? types patterns (← fromIndex? params start)
  | one _ :: _, [] => some false
  | one type :: patterns, param :: params =>
    if type.accepts types param then search? types patterns params else some false

theorem anyM_eq_some {α : Type} {as : List α} {f : α → Option Bool} {g : α → Bool}
    (h : ∀ a ∈ as, f a = some (g a)) : as.anyM f = some (as.any g) := by
  induction as
  case nil => rfl
  case cons a as hi =>
    have ⟨ha, has⟩ := List.forall_mem_cons.mp h
    cases hg : g a <;> simp [List.anyM, ha, hg, hi has]

theorem search?_eq : search? types patterns params = some (allMatch types patterns params) := by
  induction patterns generalizing params
  case nil => rfl
  case cons pattern patterns hi =>
    cases pattern
    case rest =>
      have hs : ∀ start ∈ List.range (params.length + 1),
          (do search? types patterns (← fromIndex? params start)) =
            some (allMatch types patterns (params.drop start)) := by
        intro start hm
        have hl : start ≤ params.length := Nat.lt_succ_iff.mp (List.mem_range.mp hm)
        simp [fromIndex?, hl, hi]
      rw [search?, anyM_eq_some hs]
      simp [allMatch, suffixes_eq_map, Function.comp_def]
    case one type =>
      cases params
      case nil => rfl
      case cons param params =>
        cases ha : type.accepts types param <;> simp [search?, allMatch, ha, hi]

-- A list of parameters is accepted just if it can be cut into runs that the patterns take one by
-- one. The search for the cuts by index finds the same and does not leave the list.
theorem allMatch_cuts (types : Hierarchy) (patterns : List ParamPattern) (params : List String) :
    (allMatch types patterns params = true ↔
      ∃ runs, runs.flatten = params ∧ List.Forall₂ (Takes types) patterns runs) ∧
    search? types patterns params = some (allMatch types patterns params) := by
  refine ⟨⟨exists_runs, ?_⟩, search?_eq⟩
  intro ⟨runs, hr, ht⟩
  exact hr ▸ allMatch_flatten ht

end ParamPattern
end Interpose
