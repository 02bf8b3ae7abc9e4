import Interpose.Weaving.Ranked

namespace Interpose.Ranked

variable {α : Type} {level : α → Int} {a : α} {l l₁ l₂ : List α}

-- The elements by ascending levels, those of one level in the given order.
def sorted (level : α → Int) (l : List α) : List α :=
  l.mergeSort fun a b => level a ≤ level b

@[simp]
theorem sorted_nil : sorted level [] = [] :=
  List.mergeSort_nil

def Ascending (level : α → Int) (l : List α) : Prop :=
  l.Pairwise fun a b => level a ≤ level b

theorem Ascending.level_le {b : α} (h : Ascending level (a :: l)) (hb : b ∈ a :: l) :
    level a ≤ level b := by
  cases hb
  case head    => exact Int.le_refl _
  case tail hb => exact List.rel_of_pairwise_cons h hb

theorem Ascending.tail (h : Ascending level (a :: l)) : Ascending level l :=
  (List.pairwise_cons.mp h).right

-- In an ascending list nothing but the order within each level is left to choose.
theorem Ascending.eq_of_filter_eq (h₁ : Ascending level l₁) (h₂ : Ascending level l₂)
    (h : ∀ k, l₁.filter (fun b => level b = k) = l₂.filter (fun b => level b = k)) : l₁ = l₂ := by
  have hm : ∀ {b}, b ∈ l₁ ↔ b ∈ l₂ := by
    intro b
    have := congrArg (b ∈ ·) (h (level b))
    simpa using this
  induction l₁ generalizing l₂
  case nil =>
    cases l₂
    case nil => rfl
    case cons => simpa using hm.mpr List.mem_cons_self
  case cons a l₁ hi =>
    cases l₂
    case nil => simpa using hm.mp List.mem_cons_self
    case cons b l₂ =>
      have hab := h₁.level_le (hm.mpr List.mem_cons_self)
      have hba := h₂.level_le (hm.mp List.mem_cons_self)
      have hl : level b = level a := Int.le_antisymm hba hab
      have he := h (level a)
      simp only [hl, decide_true, List.filter_cons_of_pos, List.cons.injEq] at he
      have ht : ∀ k, l₁.filter (fun c => level c = k) = l₂.filter (fun c => level c = k) := by
        intro k
        by_cases hk : level a = k
        case pos => exact hk ▸ he.right
        case neg =>
          have hk' : level b ≠ k := hl ▸ hk
          simpa [hk, hk'] using h k
      have hm' : ∀ {c}, c ∈ l₁ ↔ c ∈ l₂ := by
        intro c
        have := congrArg (c ∈ ·) (ht (level c))
        simpa using this
      rw [he.left, hi h₁.tail h₂.tail ht hm']

theorem level_trans (level : α → Int) (a b c : α) :
    decide (level a ≤ level b) = true → decide (level b ≤ level c) = true →
      decide (level a ≤ level c) = true := by
  simpa using Int.le_trans

theorem level_total (level : α → Int) (a b : α) :
    (decide (level a ≤ level b) || decide (level b ≤ level a)) = true := by
  simpa using Int.le_total _ _

theorem sorted_ascending (level : α → Int) (l : List α) : Ascending level (sorted level l) := by
  have h := l.pairwise_mergeSort (level_trans level) (level_total level)
  simpa [Ascending, sorted] using h

theorem sorted_perm (level : α → Int) (l : List α) : (sorted level l).Perm l :=
  l.mergeSort_perm _

-- Those of one level are ascending as they are, so sorting keeps their order; and it adds none.
theorem filter_sorted (level : α → Int) (l : List α) (k : Int) :
    (sorted level l).filter (fun b => level b = k) = l.filter (fun b => level b = k) := by
  have ha : (l.filter fun b => level b = k).Pairwise fun a b => decide (level a ≤ level b) = true := by
    rw [List.pairwise_filter]
    refine List.pairwise_of_forall fun a b ha hb => ?_
    simp_all
  have hs := List.sublist_mergeSort (level_trans level) (level_total level) ha List.filter_sublist
  have hf := hs.filter fun b => decide (level b = k)
  rw [List.filter_filter] at hf
  simp only [Bool.and_self] at hf
  have hp := (sorted_perm level l).filter fun b => decide (level b = k)
  exact (hf.eq_of_length hp.length_eq.symm).symm

theorem eq_sorted {m : List α} (hm : Ascending level m)
    (h : ∀ k, m.filter (fun b => level b = k) = l.filter (fun b => level b = k)) :
    m = sorted level l :=
  hm.eq_of_filter_eq (sorted_ascending level l) fun k => (h k).trans (filter_sorted level l k).symm

-- Leaving elements out before or after sorting is the same.
theorem filter_sorted_comm (level : α → Int) (p : α → Bool) (l : List α) :
    (sorted level l).filter p = sorted level (l.filter p) := by
  apply eq_sorted
  case hm => exact List.Pairwise.filter p (sorted_ascending level l)
  case h =>
    intro k
    rw [List.filter_filter, List.filter_filter]
    simp only [Bool.and_comm _ (p _)]
    rw [← List.filter_filter, filter_sorted, List.filter_filter]

-- An element is placed behind all others of its level.
theorem filter_place (h : Ascending level l) (k : Int) :
    (place level a l).filter (fun b => level b = k) =
      (l ++ [a]).filter (fun b => level b = k) := by
  induction l
  case nil => rfl
  case cons c l hi =>
    rw [place]
    split
    case isTrue => rw [List.cons_append, List.filter_cons, List.filter_cons, hi h.tail]
    case isFalse hca =>
      -- All of the list is above the new element, so none of it is of its level.
      by_cases hk : level a = k
      case neg =>
        have hf : [a].filter (fun b => level b = k) = [] := by simp [hk]
        rw [List.filter_cons_of_neg (by simpa using hk), List.filter_append, hf, List.append_nil]
      case pos =>
        have hn : ∀ b ∈ c :: l, level b ≠ k := by
          intro b hb
          have := h.level_le hb
          omega
        have hf : (c :: l).filter (fun b => level b = k) = [] := by
          simpa [List.filter_eq_nil_iff] using hn
        rw [List.filter_cons, List.filter_append, hf]
        simp [hk]

-- The advisors that are there once all of a list have been placed.
def ofList (level : α → Int) (l : List α) : Ranked α level :=
  l.foldl insert empty

theorem filter_foldl_insert (s : Ranked α level) (l : List α) (k : Int) :
    (l.foldl insert s).advisors.filter (fun b => level b = k) =
      (s.advisors ++ l).filter (fun b => level b = k) := by
  induction l generalizing s
  case nil => simp
  case cons a l hi =>
    rw [List.foldl_cons, hi, List.filter_append, insert, filter_place s.ascending,
      ← List.filter_append, List.append_assoc]
    rfl

theorem ofList_advisors (level : α → Int) (l : List α) :
    (ofList level l).advisors = sorted level l :=
  eq_sorted (ofList level l).ascending (filter_foldl_insert empty l)

end Interpose.Ranked
