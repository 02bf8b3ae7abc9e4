import Interpose.Toml.Moment
import Interpose.Proofs.Outcome
import Interpose.Proofs.Toml.Table

namespace Interpose.Toml.Value

variable {v v' w w' : Value} {items : List Value} {entries entries' : List (String × Value)}
variable {key : String} {path : List String}

-- No table of the value stands for a moment.
def Momentless (v : Value) : Prop :=
  v.EachTable fun entries => ∀ e ∈ entries.head?, e.1 ≠ momentKey

instance : Decidable v.Momentless :=
  inferInstanceAs (Decidable (v.EachTable _))

section Resolution

theorem resolveItems_eq (items : List Value) : resolveItems items = items.mapM resolve := by
  induction items
  case nil             => rfl
  case cons v items hi => rw [resolveItems, List.mapM_cons, hi]

theorem resolveEntries_eq (entries : List (String × Value)) :
    resolveEntries entries = entries.mapM fun e => e.2.resolve.map (e.1, ·) := by
  induction entries
  case nil => rfl
  case cons e entries hi =>
    rw [resolveEntries, List.mapM_cons, hi]
    cases e.2.resolve <;> rfl

theorem resolve_table (h : (table entries).Momentless) : (table entries).resolve =
    (entries.mapM fun e : String × Value => e.2.resolve.map (e.1, ·)).map fun es =>
      table (es.mergeSort fun a b => decide (a.1 ≤ b.1)) := by
  rw [← resolveEntries_eq]
  cases entries
  case nil => simp [resolve, resolveEntries]
  case cons e entries =>
    obtain ⟨key, v⟩ := e
    rw [resolve.eq_def, resolveEntries]
    simp only [if_neg ((eachTable_table.mp h).left _ rfl)]
    cases v.resolve <;> cases resolveEntries entries <;> rfl

-- Resolving moments can only fail at a table that stands for one.
theorem Momentless.exists_resolve (h : v.Momentless) : ∃ v', v.resolve = some v' := by
  induction v using Value.induction
  case atom v hv => cases v <;> first | exact ⟨_, rfl⟩ | cases hv
  case array items hi =>
    have ⟨vs, hv⟩ := Outcome.exists_mapM_eq_some.mpr fun v hv =>
      hi v hv (eachTable_array.mp h v hv)
    exact ⟨array vs, by rw [resolve, resolveItems_eq, hv, Option.map_some]⟩
  case table entries hi =>
    have ⟨es, he⟩ := Outcome.exists_mapM_eq_some.mpr fun e he =>
      have ⟨v', hv⟩ := hi e he ((eachTable_table.mp h).right e he)
      ⟨(e.1, v'), congrArg (Option.map (e.1, ·)) hv⟩
    exact ⟨_, by rw [resolve_table h, he, Option.map_some]⟩

theorem not_table_of_resolve (h : v.resolve = some v') (hv : ∀ entries, v ≠ table entries) :
    ∀ entries, v' ≠ table entries := by
  cases v
  case table entries => exact absurd rfl (hv entries)
  case array items =>
    have ⟨vs, _, he⟩ := Option.map_eq_some_iff.mp h
    exact he ▸ nofun
  all_goals cases h; exact nofun

theorem Momentless.leads_resolve (hm : v.Momentless) (h : v.resolve = some v') :
    Leads v' path w' ↔ ∃ w, Leads v path w ∧ w.resolve = some w' := by
  induction path generalizing v v'
  case nil => simp [leads_nil, h, eq_comm]
  case cons key path hi =>
    by_cases ht : ∃ entries, v = table entries
    case pos =>
      obtain ⟨entries, rfl⟩ := ht
      rw [resolve_table hm] at h
      obtain ⟨es, he, rfl⟩ := Option.map_eq_some_iff.mp h
      simp only [leads_table, List.mem_mergeSort, Outcome.mem_iff_of_mapM he]
      have hs := (eachTable_table.mp hm).right
      constructor
      case mp =>
        intro ⟨x', ⟨e, hx, hr⟩, hl⟩
        obtain ⟨x, hr, ⟨⟩⟩ := Option.map_eq_some_iff.mp hr
        have ⟨w, hl, hw⟩ := (hi (hs e hx) hr).mp hl
        exact ⟨w, ⟨e.2, hx, hl⟩, hw⟩
      case mpr =>
        intro ⟨w, ⟨x, hx, hl⟩, hw⟩
        have ⟨x', hr⟩ := Momentless.exists_resolve (hs _ hx)
        refine ⟨x', ⟨_, hx, ?_⟩, (hi (hs _ hx) hr).mpr ⟨w, hl, hw⟩⟩
        exact congrArg (Option.map (key, ·)) hr
    case neg =>
      have hv := not_exists.mp ht
      simp [not_leads hv, not_leads (not_table_of_resolve h hv)]

theorem Momentless.leaf_resolve (hm : v.Momentless) (h : v.resolve = some v') :
    Leaf v' path w' ↔ ∃ w, Leaf v path w ∧ w.resolve = some w' := by
  constructor
  case mp =>
    intro ⟨hl, hn⟩
    have ⟨w, hl, hw⟩ := (hm.leads_resolve h).mp hl
    refine ⟨w, ⟨hl, ?_⟩, hw⟩
    rintro entries rfl
    rw [resolve_table (EachTable.of_leads hm hl)] at hw
    have ⟨es, _, he⟩ := Option.map_eq_some_iff.mp hw
    exact hn _ he.symm
  case mpr =>
    intro ⟨w, ⟨hl, hn⟩, hw⟩
    exact ⟨(hm.leads_resolve h).mpr ⟨w, hl, hw⟩, not_table_of_resolve hw hn⟩

end Resolution

end Interpose.Toml.Value
