import Mathlib.Data.List.Forall2
import Mathlib.Data.List.Nodup

namespace Interpose.Keyed

section Counting

variable {α κ : Type} [BEq κ] [LawfulBEq κ] {key : α → κ} {keys : List κ} {l : List α}

theorem nodup_eraseDups (keys : List κ) : keys.eraseDups.Nodup := by
  cases keys
  case nil => exact List.nodup_nil
  case cons k keys =>
    rw [List.eraseDups_cons, List.nodup_cons]
    exact ⟨by simp [List.mem_eraseDups], nodup_eraseDups (keys.filter fun k' => !k' == k)⟩
  termination_by keys.length
  decreasing_by exact Nat.lt_succ_of_le (List.length_filter_le _ _)

-- There are as many different keys as there are elements that have one of them.
theorem length_eq_countP (hk : keys.Nodup) (hl : (l.map key).Nodup) (hs : keys ⊆ l.map key) :
    keys.length = l.countP fun a => key a ∈ keys := by
  have hn : ((l.filter fun a => key a ∈ keys).map key).Nodup :=
    hl.sublist (List.filter_sublist.map key)
  have hp : keys.Perm ((l.filter fun a => key a ∈ keys).map key) := by
    refine (List.perm_ext_iff_of_nodup hk hn).mpr fun k => ?_
    simp only [List.mem_map, List.mem_filter, decide_eq_true_eq]
    constructor
    case mp =>
      intro hk
      have ⟨a, ha, hak⟩ := List.mem_map.mp (hs hk)
      exact ⟨a, ⟨ha, hak ▸ hk⟩, hak⟩
    case mpr => exact fun ⟨a, ha, hak⟩ => hak ▸ ha.right
  rw [hp.length_eq, List.length_map, List.countP_eq_length_filter]

end Counting

variable {α β κ : Type} [DecidableEq κ] {key : α → κ} {l : List α} {a : α}

theorem filter_eq_nil (ha : key a ∉ l.map key) : l.filter (fun b => key b = key a) = [] := by
  simp only [List.filter_eq_nil_iff, decide_eq_true_eq]
  exact fun b hb he => ha (List.mem_map.mpr ⟨b, hb, he⟩)

theorem filter_eq_singleton (hl : (l.map key).Nodup) (ha : a ∈ l) :
    l.filter (fun b => key b = key a) = [a] := by
  induction l
  case nil => cases ha
  case cons b l hi =>
    have ⟨hb, hl⟩ := List.nodup_cons.mp hl
    cases ha
    case head => simp [filter_eq_nil hb]
    case tail ha =>
      have hn : key b ≠ key a := fun he => hb (he ▸ List.mem_map_of_mem ha)
      simp [hn, hi hl ha]

theorem find?_eq_some (hl : (l.map key).Nodup) (ha : a ∈ l) :
    l.find? (fun b => key b == key a) = some a := by
  have hf := filter_eq_singleton hl ha
  rw [← List.head?_filter]
  simp only [beq_eq_decide, hf, List.head?_cons]

-- Lists that go together element by element answer a search for a key together.
theorem rel_find? {R : α → β → Prop} {key' : β → κ} {m : List β}
    (hR : ∀ a b, R a b → key' b = key a) (h : List.Forall₂ R l m) (k : κ) :
    Option.Rel R (l.find? (key · == k)) (m.find? (key' · == k)) := by
  induction h
  case nil => exact .none
  case cons a b l m hab _ hi =>
    rw [List.find?_cons, List.find?_cons, hR a b hab]
    split
    case h_1 => exact .some hab
    case h_2 => exact hi

-- Lists with the same keys go together element by element.
theorem forall₂_of_map_eq {R : α → α → Prop} {key : α → β} {l m : List α}
    (h : l.map key = m.map key) (hR : ∀ a ∈ l, ∀ b ∈ m, key a = key b → R a b) :
    List.Forall₂ R l m := by
  induction l generalizing m
  case nil => cases m <;> cases h; exact .nil
  case cons a l hi =>
    cases m
    case nil => cases h
    case cons b m =>
      have ⟨hk, h⟩ := List.cons.inj h
      refine .cons (hR a List.mem_cons_self b List.mem_cons_self hk) (hi h fun c hc d hd => ?_)
      exact hR c (List.mem_cons_of_mem _ hc) d (List.mem_cons_of_mem _ hd)

-- What is found is not changed by leaving out entries of other keys.
theorem lookup_filter (p : κ → Bool) (l : List (κ × β)) (k : κ) :
    (l.filter fun e => p e.1).lookup k = if p k then l.lookup k else none := by
  induction l
  case nil => simp
  case cons e l hi =>
    obtain ⟨j, b⟩ := e
    by_cases hk : k = j
    case pos => cases hp : p j <;> simp [hk, hp, hk ▸ hi]
    case neg => cases hp : p j <;> simp [hp, List.lookup_cons, beq_false_of_ne hk, hi]

-- Entries can be changed where they are found.
theorem lookup_map_snd {γ : Type} (g : κ → β → γ) (l : List (κ × β)) (k : κ) :
    (l.map fun e => (e.1, g e.1 e.2)).lookup k = (l.lookup k).map (g k) := by
  induction l
  case nil => rfl
  case cons e l hi =>
    rw [List.map_cons, List.lookup_cons, List.lookup_cons, hi]
    cases h : k == e.1
    case false => rfl
    case true  => rw [eq_of_beq h]; rfl

-- What the elements of a list are mapped to is found by their keys.
theorem lookup_filterMap {f : α → Option (κ × β)} (hf : ∀ {b p}, f b = some p → p.1 = key b)
    (hl : (l.map key).Nodup) (ha : a ∈ l) : (l.filterMap f).lookup (key a) = (f a).map (·.2) := by
  have hk : ∀ {m : List α}, key a ∉ m.map key → (m.filterMap f).lookup (key a) = none := by
    refine fun hm => List.lookup_eq_none_iff.mpr fun p hp => bne_iff_ne.mpr fun hk => ?_
    obtain ⟨b, hb, hfb⟩ := List.mem_filterMap.mp hp
    exact hm (List.mem_map.mpr ⟨b, hb, (hk.trans (hf hfb)).symm⟩)
  induction l
  case nil => cases ha
  case cons b l hi =>
    have ⟨hb, hl⟩ := List.nodup_cons.mp hl
    cases ha
    case head =>
      cases h : f a
      case none   => simp [h, hk hb]
      case some p =>
        obtain ⟨k, c⟩ := p
        have he : k = key a := hf h
        simp [h, he]
    case tail ha =>
      cases h : f b
      case none   => simpa [h] using hi hl ha
      case some p =>
        obtain ⟨k, c⟩ := p
        have he : k = key b := hf h
        have hn : key a ≠ k := fun hk => hb (he ▸ hk ▸ List.mem_map_of_mem ha)
        simpa [h, List.lookup_cons, beq_false_of_ne hn] using hi hl ha

theorem lookup_eq_some {l : List (κ × β)} {k : κ} {b : β} (hl : (l.map (·.1)).Nodup) :
    l.lookup k = some b ↔ (k, b) ∈ l := by
  constructor
  case mp =>
    intro h
    obtain ⟨before, after, rfl, -⟩ := List.lookup_eq_some_iff.mp h
    simp
  case mpr =>
    intro h
    have hf : ∀ {e p : κ × β}, some e = some p → p.1 = e.1 := by simp
    simpa using lookup_filterMap hf hl h

end Interpose.Keyed
