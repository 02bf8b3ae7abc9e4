import Mathlib.Data.Finset.Card
import Mathlib.Data.List.Pairwise
import Mathlib.Logic.Relation
import Mathlib.Order.Defs.Unbundled
import Mathlib.Order.Lattice.Nat
import Interpose.Metadata.Hierarchy
import Interpose.Proofs.Keyed

namespace Interpose.Hierarchy

open Relation

-- The supertype need not be a type of the set.
def Declares (s : Hierarchy) (name supertype : String) : Prop :=
  ∃ t ∈ s.types, t.name = name ∧ supertype ∈ t.supertypes

-- One name is so many declarations above another.
inductive Above (s : Hierarchy) (name : String) : Nat → String → Prop
  | self : Above s name 0 name
  | step {k : Nat} {n m : String} : Above s name k n → s.Declares n m → Above s name (k + 1) m

-- The fewest declarations that lead from a name up to another.
noncomputable def distance (s : Hierarchy) (name above : String) : Nat :=
  sInf {k | s.Above name k above}

-- Going from level to level until there is no other, however many there are.
inductive Climbs (s : Hierarchy) : List String → List String → List String → Prop
  | done {met level : List String} : s.nextLevel met level = [] → Climbs s met level []
  | up {met level above : List String} : s.nextLevel met level ≠ [] →
    Climbs s (met ++ s.nextLevel met level) (s.nextLevel met level) above →
      Climbs s met level (s.nextLevel met level ++ above)

-- All names up to some distance have been met, and those at that distance are at hand.
structure Stage (s : Hierarchy) (name : String) (k : Nat) (met level : List String) : Prop where
  met   : ∀ m, m ∈ met ↔ ReflTransGen s.Declares name m ∧ s.distance name m ≤ k
  level : ∀ m, m ∈ level ↔ ReflTransGen s.Declares name m ∧ s.distance name m = k

variable {s : Hierarchy} {name n m : String} {k j : Nat} {met level above : List String}

theorem mem_declared : m ∈ s.declared n ↔ s.Declares n m := by
  constructor
  case mp =>
    intro h
    cases ht : s.get? n <;> simp [declared, ht] at h
    case some t =>
      have hn : t.name = n := by simpa using List.find?_some ht
      exact ⟨t, List.mem_of_find?_eq_some ht, hn, h⟩
  case mpr =>
    intro ⟨t, ht, hn, hm⟩
    have hg : s.get? n = some t := hn ▸ Keyed.find?_eq_some s.nodup ht
    simpa [declared, hg] using hm

theorem mem_nextLevel : m ∈ s.nextLevel met level ↔ (∃ n ∈ level, s.Declares n m) ∧ m ∉ met := by
  simp [nextLevel, mem_declared]

section Distance

theorem Above.reaches (h : s.Above name k m) : ReflTransGen s.Declares name m := by
  induction h
  case self          => exact .refl
  case step hd hi => exact hi.tail hd

theorem exists_above (h : ReflTransGen s.Declares name m) : ∃ k, s.Above name k m := by
  induction h
  case refl       => exact ⟨0, .self⟩
  case tail hd hi =>
    have ⟨k, hk⟩ := hi
    exact ⟨k + 1, hk.step hd⟩

theorem above_distance (h : ReflTransGen s.Declares name m) :
    s.Above name (s.distance name m) m :=
  Nat.sInf_mem (exists_above h)

theorem distance_le (h : s.Above name k m) : s.distance name m ≤ k :=
  Nat.sInf_le h

theorem distance_self : s.distance name name = 0 :=
  Nat.le_zero.mp (distance_le .self)

theorem eq_of_distance (h : ReflTransGen s.Declares name m) (hd : s.distance name m = 0) :
    m = name := by
  have ha := above_distance h
  rw [hd] at ha
  cases ha
  rfl

theorem distance_le_succ (h : ReflTransGen s.Declares name n) (hd : s.Declares n m) :
    s.distance name m ≤ s.distance name n + 1 :=
  distance_le <| (above_distance h).step hd

-- What is one further away is declared by something that is not.
theorem exists_declares (h : ReflTransGen s.Declares name m) (hd : s.distance name m = k + 1) :
    ∃ n, (ReflTransGen s.Declares name n ∧ s.distance name n = k) ∧ s.Declares n m := by
  have ha := above_distance h
  rw [hd] at ha
  cases ha
  case step n ha hn =>
    have hs := distance_le_succ ha.reaches hn
    exact ⟨n, ⟨ha.reaches, Nat.le_antisymm (distance_le ha) (by omega)⟩, hn⟩

-- There are no gaps: where something is so far away, something is at each lesser distance.
theorem exists_at_distance (h : ReflTransGen s.Declares name m) (hj : j ≤ s.distance name m) :
    ∃ n, ReflTransGen s.Declares name n ∧ s.distance name n = j := by
  induction hd : s.distance name m generalizing m
  case zero => exact ⟨m, h, by omega⟩
  case succ k hi =>
    have ⟨n, hn, _⟩ := exists_declares h hd
    by_cases he : j = k + 1
    case pos => exact ⟨m, h, hd.trans he.symm⟩
    case neg => exact hi hn.left (by omega) hn.right

end Distance

section Stages

theorem stage_self : s.Stage name 0 [name] [name] := by
  have hm : ∀ m, m ∈ [name] ↔ ReflTransGen s.Declares name m ∧ s.distance name m = 0 := by
    intro m
    rw [List.mem_singleton]
    constructor
    case mp  => rintro rfl; exact ⟨.refl, distance_self⟩
    case mpr => exact fun ⟨h, hd⟩ => eq_of_distance h hd
  exact ⟨by simpa only [Nat.le_zero] using hm, hm⟩

theorem Stage.mem_nextLevel (h : s.Stage name k met level) : m ∈ s.nextLevel met level ↔
    ReflTransGen s.Declares name m ∧ s.distance name m = k + 1 := by
  rw [Hierarchy.mem_nextLevel, h.met]
  constructor
  case mp =>
    intro ⟨⟨n, hn, hd⟩, hm⟩
    have ⟨hr, hk⟩ := (h.level n).mp hn
    have hs := distance_le_succ hr hd
    have hr := hr.tail hd
    have hk' : ¬s.distance name m ≤ k := fun hm' => hm ⟨hr, hm'⟩
    exact ⟨hr, by omega⟩
  case mpr =>
    intro ⟨hr, hk⟩
    have ⟨n, hn, hd⟩ := exists_declares hr hk
    exact ⟨⟨n, (h.level n).mpr hn, hd⟩, by omega⟩

theorem Stage.next (h : s.Stage name k met level) :
    s.Stage name (k + 1) (met ++ s.nextLevel met level) (s.nextLevel met level) := by
  refine ⟨fun m => ?_, fun m => h.mem_nextLevel⟩
  rw [List.mem_append, h.met, h.mem_nextLevel, ← and_or_left, Nat.le_succ_iff]

-- When nothing is one further away, nothing is further away at all.
theorem Stage.distance_le (h : s.Stage name k met level) (hn : s.nextLevel met level = [])
    (hm : ReflTransGen s.Declares name m) : s.distance name m ≤ k := by
  by_contra hk
  have ⟨n, hr⟩ := exists_at_distance hm (Nat.lt_of_not_le hk)
  have hl := h.mem_nextLevel.mpr hr
  rw [hn] at hl
  cases hl

-- What is found from some stage on, and in which order.
structure Found (s : Hierarchy) (name : String) (k : Nat) (above : List String) : Prop where
  mem_iff : ∀ m, m ∈ above ↔ ReflTransGen s.Declares name m ∧ k < s.distance name m
  nodup   : above.Nodup
  ordered : above.Pairwise fun m n => s.distance name m ≤ s.distance name n

theorem Stage.found (h : s.Stage name k met level) (hc : s.Climbs met level above) :
    s.Found name k above := by
  induction hc generalizing k
  case done hn =>
    refine ⟨fun m => ?_, .nil, .nil⟩
    simpa using fun hr => h.distance_le hn hr
  case up met level above _ _ hi =>
    have hf := hi h.next
    have hl : ∀ m, m ∈ s.nextLevel met level → s.distance name m = k + 1 :=
      fun m hm => (h.mem_nextLevel.mp hm).right
    have ha : ∀ m ∈ above, k + 1 < s.distance name m := fun m hm => ((hf.mem_iff m).mp hm).right
    constructor
    case mem_iff =>
      intro m
      rw [List.mem_append, h.mem_nextLevel, hf.mem_iff, ← and_or_left]
      exact and_congr_right fun _ => by omega
    case nodup =>
      refine List.nodup_append'.mpr ⟨Keyed.nodup_eraseDups _, hf.nodup, fun m hm hm' => ?_⟩
      exact Nat.lt_irrefl _ (hl m hm ▸ ha m hm')
    case ordered =>
      have he := List.pairwise_of_forall_mem_list fun m hm n hn =>
        Nat.le_of_eq ((hl m hm).trans (hl n hn).symm)
      refine List.pairwise_append.mpr ⟨he, hf.ordered, fun m hm n hn => ?_⟩
      exact hl m hm ▸ Nat.le_of_lt (ha n hn)

end Stages

section Levels

theorem Climbs.unique {above' : List String} (h : s.Climbs met level above)
    (h' : s.Climbs met level above') : above = above' := by
  induction h generalizing above'
  case done hn =>
    cases h'
    case done        => rfl
    case up hn' _    => exact absurd hn hn'
  case up hn _ hi =>
    cases h'
    case done hn'    => exact absurd hn' hn
    case up hc       => rw [hi hc]

-- The names that are declared somewhere and have not been met.
def unmet (s : Hierarchy) (met : List String) : Finset String :=
  (s.types.flatMap (·.supertypes)).toFinset \ met.toFinset

theorem nextLevel_subset_unmet (hm : m ∈ s.nextLevel met level) : m ∈ s.unmet met := by
  have ⟨⟨n, _, t, ht, _, hd⟩, hn⟩ := mem_nextLevel.mp hm
  simp only [unmet, Finset.mem_sdiff, List.mem_toFinset, List.mem_flatMap]
  exact ⟨⟨t, ht, hd⟩, hn⟩

theorem unmet_ssubset (hn : s.nextLevel met level ≠ []) :
    s.unmet (met ++ s.nextLevel met level) ⊂ s.unmet met := by
  have ⟨m, hm⟩ := List.exists_mem_of_ne_nil _ hn
  refine Finset.ssubset_iff_of_subset ?_ |>.mpr ⟨m, nextLevel_subset_unmet hm, ?_⟩
  · simp only [unmet, List.toFinset_append]
    exact Finset.sdiff_subset_sdiff (Finset.Subset.refl _) Finset.subset_union_left
  · simp [unmet, hm]

-- Every level but the last takes in a name that is declared and has not been met.
theorem climbs_levelsAbove {bound : Nat} (h : (s.unmet met).card ≤ bound) :
    s.Climbs met level (s.levelsAbove bound met level) := by
  induction bound generalizing met level
  case zero =>
    refine .done (List.eq_nil_iff_forall_not_mem.mpr fun m hm => ?_)
    have he := Finset.card_eq_zero.mp (Nat.le_zero.mp h)
    exact Finset.notMem_empty m (he ▸ nextLevel_subset_unmet hm)
  case succ bound hi =>
    rw [levelsAbove]
    by_cases hn : s.nextLevel met level = []
    case pos =>
      simp only [hn, List.isEmpty_nil, ↓reduceIte]
      exact .done hn
    case neg =>
      simp only [List.isEmpty_iff, hn, ↓reduceIte]
      have hc := Finset.card_lt_card (unmet_ssubset hn)
      exact .up hn (hi (by omega))

theorem climbs_ancestors (s : Hierarchy) (name : String) :
    s.Climbs [name] [name] (s.ancestors name) := by
  refine climbs_levelsAbove ?_
  calc (s.unmet [name]).card
    _ ≤ (s.types.flatMap (·.supertypes)).toFinset.card := Finset.card_le_card Finset.sdiff_subset
    _ ≤ s.levelBound := List.toFinset_card_le _

theorem found_ancestors (s : Hierarchy) (name : String) : s.Found name 0 (s.ancestors name) :=
  stage_self.found (climbs_ancestors s name)

end Levels

theorem mem_ancestors : m ∈ s.ancestors name ↔ m ≠ name ∧ ReflTransGen s.Declares name m := by
  rw [(found_ancestors s name).mem_iff, and_comm]
  refine and_congr_left fun h => ?_
  rw [Nat.pos_iff_ne_zero, not_iff_not]
  exact ⟨eq_of_distance h, fun he => he ▸ distance_self⟩

theorem conforms_iff : s.conforms m n = true ↔ ReflTransGen s.Declares n m := by
  rw [conforms, Bool.or_eq_true, beq_iff_eq, List.contains_iff_mem, mem_ancestors]
  by_cases he : m = n
  case pos => simp [he, ReflTransGen.refl]
  case neg => simp [he]

-- The types above a type are those that declarations lead to, one after the other. The search for
-- them comes to an end and finds each of them once, none before one that is nearer. The type itself
-- is not among them, even if declarations lead back to it.
theorem ancestors_exact (s : Hierarchy) (name : String) :
    (∀ above, s.Climbs [name] [name] above ↔ above = s.ancestors name) ∧
      (s.ancestors name).Nodup ∧ name ∉ s.ancestors name ∧
      (∀ m, m ∈ s.ancestors name ↔ m ≠ name ∧ TransGen s.Declares name m) ∧
      ((s.ancestors name).Pairwise fun m n => s.distance name m ≤ s.distance name n) ∧
      IsPreorder String fun declared actual => s.conforms declared actual = true := by
  have hf := found_ancestors s name
  refine ⟨fun above => ?search, hf.nodup, ?self, fun m => ?reached, hf.ordered, ?preorder⟩
  case search =>
    constructor
    case mp  => exact fun h => h.unique (climbs_ancestors s name)
    case mpr => rintro rfl; exact climbs_ancestors s name
  case self => simp [mem_ancestors]
  case reached =>
    rw [mem_ancestors]
    refine and_congr_right fun hm => ?_
    simp [reflTransGen_iff_eq_or_transGen, hm]
  case preorder =>
    refine { refl := fun n => conforms_iff.mpr .refl, trans := fun m n l hm hn => ?_ }
    exact conforms_iff.mpr <| (conforms_iff.mp hn).trans (conforms_iff.mp hm)

-- Declarations lead around a diamond, to a name that no type has and back.
example : (ofList [
    { TypeDescription.plain "a.A" with supertypes := ["a.B", "a.C"] },
    { TypeDescription.plain "a.B" with supertypes := ["a.D", "a.A"] },
    { TypeDescription.plain "a.C" with supertypes := ["a.X", "a.D"] }]).ancestors "a.A" =
      ["a.B", "a.C", "a.D", "a.X"] := by
  decide +kernel

end Interpose.Hierarchy
