import Mathlib.Data.List.Forall2
import Mathlib.Data.List.Infix
import Interpose.Proofs.Weaving.Ranked

namespace Interpose.Ranked

variable {α : Type} {level : α → Int} {p : α → Bool} {a : α} {l arrived kept : List α}
variable {low high mid n m : Nat}

-- The first `n` elements of a list are its front; none behind them belongs to it.
structure Parted (p : α → Bool) (l : List α) (n : Nat) : Prop where
  within : n ≤ l.length
  front  : ∀ b ∈ l.take n, p b = true
  behind : ∀ b ∈ l.drop n, p b = false

-- Looks for the end of the front between two places, in the middle first.
def halving (p : α → Bool) (l : List α) (low high : Nat) : Nat :=
  if low < high then
    let mid := low + (high - low) / 2
    if l[mid]?.any p then halving p l (mid + 1) high else halving p l low mid
  else low
termination_by high - low

def partitionPoint (p : α → Bool) (l : List α) : Nat :=
  halving p l 0 l.length

-- Inserts an element behind all that are not above its level, if these are a front of the list.
def insertAt (level : α → Int) (l : List α) (a : α) : List α :=
  l.insertIdx (partitionPoint (fun b => level b ≤ level a) l) a

-- The lists that there are one after the other while elements come in.
def stages (level : α → Int) (arrived : List α) : List (List α) :=
  arrived.scanl (insertAt level) []

section Search

theorem Parted.any_getElem? (h : Parted p l n) (hm : mid < l.length) :
    l[mid]?.any p = decide (mid < n) := by
  rw [List.getElem?_eq_getElem hm, Option.any_some]
  by_cases hn : mid < n
  case pos =>
    have hf := h.front l[mid] (List.mem_take_iff_getElem.mpr ⟨mid, by omega, rfl⟩)
    simp [hf, hn]
  case neg =>
    have hb := h.behind l[mid] (List.mem_drop_iff_getElem.mpr ⟨mid - n, by omega, by grind⟩)
    simp [hb, hn]

-- The end of the front stays between the two places.
theorem Parted.halving_eq (h : Parted p l n) (hl : low ≤ n) (hh : n ≤ high)
    (hb : high ≤ l.length) : halving p l low high = n := by
  fun_induction halving p l low high
  case case1 low high hlt mid hm hi =>
    rw [h.any_getElem? (by omega), decide_eq_true_eq] at hm
    exact hi (by omega) hh hb
  case case2 low high hlt mid hm hi =>
    rw [h.any_getElem? (by omega), decide_eq_true_eq] at hm
    exact hi hl (by omega) (by omega)
  case case3 => omega

theorem Parted.partitionPoint_eq (h : Parted p l n) : partitionPoint p l = n :=
  h.halving_eq (Nat.zero_le n) h.within (Nat.le_refl _)

end Search

section Insertion

-- In an ascending list those that are not above a level come first.
theorem Ascending.exists_parted (h : Ascending level l) (k : Int) :
    ∃ n, Parted (fun b => level b ≤ k) l n := by
  induction l
  case nil => exact ⟨0, Nat.le_refl 0, by simp, by simp⟩
  case cons b l hi =>
    by_cases hb : level b ≤ k
    case pos =>
      have ⟨n, hn⟩ := hi h.tail
      refine ⟨n + 1, ?within, ?front, ?behind⟩
      case within => exact Nat.succ_le_succ hn.within
      case front  => exact List.forall_mem_cons.mpr ⟨decide_eq_true hb, hn.front⟩
      case behind => exact hn.behind
    case neg =>
      refine ⟨0, Nat.zero_le _, by simp, fun c hc => ?_⟩
      have := h.level_le hc
      exact decide_eq_false (by omega)

theorem Parted.place_eq (h : Parted (fun b => level b ≤ level a) l n) :
    place level a l = l.insertIdx n a := by
  induction l generalizing n
  case nil =>
    have hn : n = 0 := Nat.le_zero.mp h.within
    rw [hn, place, List.insertIdx_zero]
  case cons b l hi =>
    cases n
    case zero =>
      have hb : ¬level b ≤ level a := of_decide_eq_false (h.behind b List.mem_cons_self)
      rw [place, if_neg hb, List.insertIdx_zero]
    case succ n =>
      obtain ⟨hb, hf⟩ := List.forall_mem_cons.mp h.front
      rw [place, if_pos (of_decide_eq_true hb), List.insertIdx_succ_cons,
        hi ⟨Nat.le_of_succ_le_succ h.within, hf, h.behind⟩]

theorem Ascending.insertAt_eq (h : Ascending level l) (a : α) :
    insertAt level l a = place level a l := by
  have ⟨n, hn⟩ := h.exists_parted (level a)
  rw [insertAt, hn.partitionPoint_eq, hn.place_eq]

theorem foldl_insertAt (s : Ranked α level) (arrived : List α) :
    arrived.foldl (insertAt level) s.advisors = (arrived.foldl insert s).advisors := by
  induction arrived generalizing s
  case nil => rfl
  case cons a arrived hi =>
    rw [List.foldl_cons, List.foldl_cons, Ascending.insertAt_eq s.ascending, ← hi]
    rfl

end Insertion

-- What is kept of the elements that have come in.
structure Keeps (level : α → Int) (arrived kept : List α) : Prop where
  ascending : Ascending level kept
  once      : kept.Perm arrived
  stable    : ∀ k, kept.filter (fun b => level b = k) = arrived.filter (fun b => level b = k)
  sorted    : kept = arrived.mergeSort fun a b => level a ≤ level b
  -- Whatever comes in next, the search for its place begins with a front and ends behind it.
  parted    : ∀ a, Parted (fun b => level b ≤ level a) kept
    (partitionPoint (fun b => level b ≤ level a) kept)

section Run

theorem keeps_of_filter_eq (ha : Ascending level kept)
    (h : ∀ k, kept.filter (fun b => level b = k) = arrived.filter (fun b => level b = k)) :
    Keeps level arrived kept := by
  have hs : kept = sorted level arrived := eq_sorted ha h
  constructor
  case ascending => exact ha
  case once      => exact hs ▸ sorted_perm level arrived
  case stable    => exact h
  case sorted    => exact hs
  case parted    =>
    intro a
    have ⟨n, hn⟩ := ha.exists_parted (level a)
    exact hn.partitionPoint_eq.symm ▸ hn

theorem Keeps.insertAt (h : Keeps level arrived kept) (a : α) :
    Keeps level (arrived ++ [a]) (insertAt level kept a) := by
  rw [h.ascending.insertAt_eq]
  refine keeps_of_filter_eq (place_ascending h.ascending) fun k => ?_
  rw [filter_place h.ascending, List.filter_append, List.filter_append, h.stable]

theorem Keeps.scanl (h : Keeps level arrived kept) (more : List α) :
    List.Forall₂ (fun before => Keeps level (arrived ++ before)) more.inits
      (more.scanl (Ranked.insertAt level) kept) := by
  induction more generalizing arrived kept
  case nil => exact .cons (by simpa using h) .nil
  case cons a more hi =>
    have hs := hi (h.insertAt a)
    rw [List.inits_cons, List.scanl_cons, List.forall₂_cons, List.forall₂_map_left_iff]
    simp only [List.append_assoc, List.singleton_append] at hs
    exact ⟨by simpa using h, hs⟩

-- Elements that come in one by one are sorted after each of them: every list on the way is the
-- stable sort of what has come in so far. The last one is what placing them gives.
theorem insertions_sorted (level : α → Int) (arrived : List α) :
    List.Forall₂ (Keeps level) arrived.inits (stages level arrived) ∧
      (stages level arrived).getLast? = some (ofList level arrived).advisors := by
  constructor
  case left =>
    have h : Keeps level [] [] := keeps_of_filter_eq .nil fun _ => rfl
    exact h.scanl arrived
  case right =>
    rw [stages, List.getLast?_scanl, Option.some_inj]
    exact foldl_insertAt empty arrived

end Run

example : stages Prod.snd [("low", 5), ("first", 1), ("tie", 5), ("second", 1)] =
    [[], [("low", 5)], [("first", 1), ("low", 5)], [("first", 1), ("low", 5), ("tie", 5)],
      [("first", 1), ("second", 1), ("low", 5), ("tie", 5)]] := by
  cbv

end Interpose.Ranked
