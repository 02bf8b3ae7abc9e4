import Interpose.Setting.Environment
import Interpose.Proofs.Weaving.Ranked

namespace Interpose.Environment

variable {e : Environment} {s : SettingSource} {sources added : List SettingSource} {key : String}
variable {v : Setting}

-- The environment once all of these sources have been added, one after the other.
def ofSources (added : List SettingSource) : Environment :=
  added.foldl add empty

-- The sources by descending priority, those of one priority in the order in which they were added.
structure Arranged (added sources : List SettingSource) : Prop where
  perm       : sources.Perm added
  descending : sources.Pairwise fun s t => t.priority ≤ s.priority
  stable     : ∀ p, sources.filter (·.priority = p) = added.filter (·.priority = p)

-- The source has the key, and every other that has it has a lower priority, or the same one and was
-- added later.
inductive Prevails (key : String) (s : SettingSource) : List SettingSource → Prop
  | intro {before after : List SettingSource} : (s.get? key).isSome →
    (∀ t ∈ before, (t.get? key).isSome → t.priority < s.priority) →
    (∀ t ∈ after, (t.get? key).isSome → t.priority ≤ s.priority) →
    Prevails key s (before ++ s :: after)

section Arrangement

theorem sources_add (e : Environment) (s : SettingSource) :
    (e.add s).sources = Ranked.sorted (fun t => -t.priority) (e.sources ++ [s]) := by
  simp only [add, Ranked.sorted, Int.neg_le_neg_iff]

theorem filter_priority (p : Int) (l : List SettingSource) :
    l.filter (fun s => -s.priority = -p) = l.filter (·.priority = p) := by
  simp only [Int.neg_inj]

theorem Arranged.ascending (h : Arranged added sources) :
    Ranked.Ascending (fun s => -s.priority) sources :=
  h.descending.imp Int.neg_le_neg

theorem Arranged.unique {sources' : List SettingSource} (h : Arranged added sources)
    (h' : Arranged added sources') : sources = sources' := by
  refine h.ascending.eq_of_filter_eq h'.ascending fun k => ?_
  have hk := (h.stable (-k)).trans (h'.stable (-k)).symm
  rwa [← filter_priority, ← filter_priority, Int.neg_neg] at hk

-- Sorting once more keeps what has been sorted so far.
theorem Arranged.add (h : Arranged added e.sources) (s : SettingSource) :
    Arranged (added ++ [s]) (e.add s).sources where
  perm := by
    rw [sources_add]
    exact (Ranked.sorted_perm _ _).trans (h.perm.append_right [s])
  descending := by
    rw [sources_add]
    exact (Ranked.sorted_ascending (fun t : SettingSource => -t.priority) _).imp
      Int.le_of_neg_le_neg
  stable p := by
    rw [sources_add, ← filter_priority, Ranked.filter_sorted, filter_priority, List.filter_append,
      List.filter_append, h.stable]

theorem Arranged.addAll (h : Arranged added e.sources) (more : List SettingSource) :
    Arranged (added ++ more) (more.foldl Environment.add e).sources := by
  induction more generalizing e added
  case nil => simpa using h
  case cons s more hi =>
    rw [List.foldl_cons, ← List.singleton_append, ← List.append_assoc]
    exact hi (h.add s)

theorem arranged_ofSources (added : List SettingSource) :
    Arranged added (ofSources added).sources := by
  have h : Arranged [] empty.sources := ⟨.nil, .nil, fun _ => rfl⟩
  exact h.addAll added

end Arrangement

section Lookup

theorem Prevails.mem (h : Prevails key s added) : s ∈ added := by
  obtain ⟨_, _, _⟩ := h
  simp

theorem Prevails.isSome (h : Prevails key s added) : (s.get? key).isSome := by
  obtain ⟨hs, _, _⟩ := h
  exact hs

theorem Prevails.le (h : Prevails key s added) :
    ∀ t ∈ added, (t.get? key).isSome → t.priority ≤ s.priority := by
  intro t ht hk
  obtain ⟨hs, hb, ha⟩ := h
  obtain ht | rfl | ht := by simpa using ht
  case inl     => exact Int.le_of_lt (hb t ht hk)
  case inr.inl => exact Int.le_refl _
  case inr.inr => exact ha t ht hk

theorem Prevails.find? (h : Prevails key s added) :
    added.find? (fun t => (t.get? key).isSome && t.priority == s.priority) = some s := by
  obtain @⟨before, after, hs, hb, ha⟩ := h
  refine List.find?_eq_some_iff_append.mpr ⟨by simp [hs], before, after, rfl, fun t ht => ?_⟩
  cases hk : (t.get? key).isSome
  case false => rfl
  case true  => simpa using Int.ne_of_lt (hb t ht hk)

-- Both have the highest priority that there is, and both are the first to have it.
theorem Prevails.unique {t : SettingSource} (h : Prevails key s added) (h' : Prevails key t added) :
    s = t := by
  have hp : s.priority = t.priority :=
    Int.le_antisymm (h'.le s h.mem h.isSome) (h.le t h'.mem h'.isSome)
  exact Option.some.inj (h.find?.symm.trans (hp ▸ h'.find?))

-- The first source that has the key prevails, in the order of adding too.
theorem Arranged.prevails (h : Arranged added sources)
    (hv : sources.findSome? (·.get? key) = some v) :
    ∃ s, Prevails key s added ∧ s.get? key = some v := by
  obtain ⟨front, s, back, rfl, hs, hf⟩ := List.findSome?_eq_some_iff.mp hv
  have hst := h.stable s.priority
  rw [List.filter_append, List.filter_cons_of_pos (by simp)] at hst
  obtain ⟨before, rest, rfl, hb, hr⟩ := List.filter_eq_append_iff.mp hst.symm
  obtain ⟨between, after, rfl, hn, -, ha⟩ := List.filter_eq_cons_iff.mp hr
  rw [← List.append_assoc] at h ⊢
  -- None of the sources in front has the key, and those behind have no higher priority.
  have hle : ∀ t ∈ before ++ between ++ s :: after, (t.get? key).isSome →
      t.priority ≤ s.priority := by
    intro t ht hk
    rw [← h.perm.mem_iff, List.mem_append, List.mem_cons] at ht
    obtain ht | rfl | ht := ht
    case inl     => simp [hf t ht] at hk
    case inr.inl => exact Int.le_refl _
    case inr.inr =>
      exact List.rel_of_pairwise_cons (List.pairwise_append.mp h.descending).right.left ht
  refine ⟨s, .intro (by simp [hs]) ?_ fun t ht => hle t (by simp [ht]), hs⟩
  intro t ht hk
  refine Int.lt_iff_le_and_ne.mpr ⟨hle t (List.mem_append_left _ ht) hk, fun he => ?_⟩
  have hm : t ∈ before.filter (·.priority = s.priority) := by
    obtain ht | ht := List.mem_append.mp ht
    case inl => simp [ht, he]
    case inr => exact absurd (by simpa using he) (hn t ht)
  rw [hb, List.mem_filter] at hm
  simp [hf t hm.left] at hk

theorem findSome?_eq_none (h : sources.Perm added) :
    sources.findSome? (·.get? key) = none ↔ ∀ s ∈ added, s.get? key = none := by
  simp [List.findSome?_eq_none_iff, h.mem_iff]

end Lookup

-- However many sources are added, they are asked by descending priority, and those of one priority
-- in the order in which they were added; so the one that prevails answers for a key.
theorem get?_prevails (added : List SettingSource) :
    (∀ sources, (ofSources added).sources = sources ↔ Arranged added sources) ∧
    ∀ key, (∀ v, (ofSources added).get? key = some v ↔
        ∃ s, Prevails key s added ∧ s.get? key = some v) ∧
      ((ofSources added).get? key = none ↔ ∀ s ∈ added, s.get? key = none) := by
  have h := arranged_ofSources added
  refine ⟨fun sources => ⟨fun he => he ▸ h, h.unique⟩, fun key => ⟨fun v => ⟨h.prevails, ?_⟩, ?_⟩⟩
  case refine_1 =>
    intro ⟨s, hs, hv⟩
    cases hw : (ofSources added).get? key
    case none =>
      have := (findSome?_eq_none h.perm).mp hw s hs.mem
      simp [this] at hv
    case some w =>
      have ⟨t, ht, hw⟩ := h.prevails hw
      rw [← hv, ← hw, hs.unique ht]
  case refine_2 => exact findSome?_eq_none h.perm

end Interpose.Environment
