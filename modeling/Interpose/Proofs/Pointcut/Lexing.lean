import Interpose.Pointcut.Token
import Interpose.Proofs.Outcome

namespace Interpose

namespace Text

-- Two tables of ranges have nothing in common.
def Apart (ranges ranges' : List (Nat × Nat)) : Prop :=
  ∀ r ∈ ranges, ∀ s ∈ ranges', r.2 < s.1 ∨ s.2 < r.1

instance (ranges ranges' : List (Nat × Nat)) : Decidable (Apart ranges ranges') :=
  inferInstanceAs (Decidable (∀ r ∈ ranges, ∀ s ∈ ranges', r.2 < s.1 ∨ s.2 < r.1))

theorem Apart.inRanges {ranges ranges' : List (Nat × Nat)} (h : Apart ranges ranges') {n : Nat}
    (hn : inRanges ranges n = true) : inRanges ranges' n = false := by
  simp only [Text.inRanges, List.any_eq_true, List.any_eq_false, Bool.and_eq_true,
    decide_eq_true_eq] at hn ⊢
  rintro s hs ⟨hl, hu⟩
  obtain ⟨r, hr, hl', hu'⟩ := hn
  cases h r hr s hs
  case inl => omega
  case inr => omega

theorem blankRanges_apart : Apart blankRanges alphanumericRanges := by
  decide +kernel

-- The letters and digits of the first 128 characters, for which the tables are not asked.
theorem blankRanges_apart_ascii :
    Apart blankRanges [(0x30, 0x39), (0x41, 0x5a), (0x61, 0x7a)] := by
  decide

theorem inRanges_of_isAlphanum {c : Char} (h : c.isAlphanum = true) :
    inRanges [(0x30, 0x39), (0x41, 0x5a), (0x61, 0x7a)] c.toNat = true := by
  have hc : c.toNat = c.val.toNat := rfl
  change ((decide (65 ≤ c.val ∧ c.val ≤ 90) || 97 ≤ c.val && c.val ≤ 122) ||
    48 ≤ c.val && c.val ≤ 57) = true at h
  simp [UInt32.le_iff_toNat_le] at h
  simp [inRanges]
  omega

theorem not_isAlphanumeric_of_isBlank {c : Char} (h : isBlank c = true) :
    isAlphanumeric c = false := by
  rw [isAlphanumeric]
  split
  case isFalse => exact blankRanges_apart.inRanges h
  case isTrue  =>
    rw [Bool.eq_false_iff]
    intro ha
    have := blankRanges_apart_ascii.inRanges h
    rw [inRanges_of_isAlphanum ha] at this
    cases this

end Text

namespace Pointcut

open Outcome

theorem Token.isBlank_of_ofChar? {c : Char} {t : Token} (h : ofChar? c = some t) :
    Text.isBlank c = false := by
  unfold ofChar? at h
  split at h
  case h_6 => cases h
  all_goals decide

theorem Token.ofDoubled?_eq_some {c : Char} {t : Token} :
    ofDoubled? c = some t ↔ c = '&' ∧ t = .and ∨ c = '|' ∧ t = .or := by
  unfold ofDoubled?
  split <;> simp_all [eq_comm]

theorem isWordChar_plain {c : Char} (h : isWordChar c = true) :
    Text.isBlank c = false ∧ Token.ofChar? c = none ∧ Token.ofDoubled? c = none := by
  refine ⟨?blank, ?single, ?doubled⟩
  case blank =>
    rw [Bool.eq_false_iff]
    intro hb
    simp only [isWordChar, Text.not_isAlphanumeric_of_isBlank hb, Bool.false_or, Bool.or_eq_true,
      beq_iff_eq] at h
    rcases h with (((rfl | rfl) | rfl) | rfl) | rfl <;> revert hb <;> decide
  case single =>
    unfold Token.ofChar?
    split
    case h_6 => rfl
    all_goals revert h; decide
  case doubled =>
    unfold Token.ofDoubled?
    split
    case h_3 => rfl
    all_goals revert h; decide

-- What can be the text of a word.
structure Word (w : String) : Prop where
  nonempty : w ≠ ""
  chars    : ∀ c ∈ w.toList, isWordChar c = true

theorem Word.of_all {w : String} (hn : w ≠ "") (hc : w.toList.all isWordChar = true) : Word w :=
  ⟨hn, List.all_eq_true.mp hc⟩

def Token.Proper : Token → Prop
  | word w => Word w
  | _ => True

-- A word could go on with this text.
def startsWord (s : List Char) : Bool := s.head?.any isWordChar

section Equations

variable {c : Char} {t : Token} {w : String} {s rest : List Char} {position : Nat}

theorem tokensFrom_blank (h : Text.isBlank c = true) :
    tokensFrom position (c :: rest) = tokensFrom (position + 1) rest := by
  rw [tokensFrom, if_pos h]

theorem tokensFrom_single (h : Token.ofChar? c = some t) :
    tokensFrom position (c :: rest) =
      (tokensFrom (position + 1) rest).map (⟨t, position⟩ :: ·) := by
  rw [tokensFrom]
  simp [Token.isBlank_of_ofChar? h, h]

theorem tokensFrom_doubled (h : Token.ofDoubled? c = some t) :
    tokensFrom position (c :: c :: rest) =
      (tokensFrom (position + 2) rest).map (⟨t, position⟩ :: ·) := by
  rw [tokensFrom]
  rcases Token.ofDoubled?_eq_some.mp h with ⟨rfl, rfl⟩ | ⟨rfl, rfl⟩
  · simp [Token.ofChar?, Token.ofDoubled?, show Text.isBlank '&' = false by decide]
  · simp [Token.ofChar?, Token.ofDoubled?, show Text.isBlank '|' = false by decide]

theorem takeWhile_word (hs : ∀ c ∈ s, isWordChar c = true) (hr : startsWord rest = false) :
    (s ++ rest).takeWhile isWordChar = s ∧ (s ++ rest).dropWhile isWordChar = rest := by
  rw [List.takeWhile_append_of_pos hs, List.dropWhile_append_of_pos hs]
  cases rest
  case nil  => simp
  case cons =>
    have hc := by simpa [startsWord] using hr
    simp [hc]

theorem tokensFrom_word (hw : Word w) (hr : startsWord rest = false) :
    tokensFrom position (w.toList ++ rest) =
      (tokensFrom (position + w.length) rest).map (⟨.word w, position⟩ :: ·) := by
  cases hs : w.toList
  case nil => exact (hw.nonempty (String.toList_eq_nil_iff.mp hs)).elim
  case cons c s =>
    have hc := fun d hd => hw.chars d (hs ▸ hd)
    obtain ⟨hb, ho, hd⟩ := isWordChar_plain (hc c List.mem_cons_self)
    obtain ⟨ht, hd'⟩ := takeWhile_word (fun d hd => hc d (List.mem_cons_of_mem c hd)) hr
    have hl : w.length = 1 + s.length := by rw [← String.length_toList, hs, List.length_cons]; omega
    have hw' : String.ofList (c :: s) = w := by rw [← hs, String.ofList_toList]
    rw [List.cons_append, tokensFrom]
    simp [hb, ho, hd, hc c List.mem_cons_self, ht, hd', hl, hw', Nat.add_assoc]

-- Whatever is cut out of a text as a word is one.
theorem proper_of_tokensFrom {ts : List Located} (h : tokensFrom position s = .ok ts) :
    ∀ t ∈ ts, t.token.Proper := by
  fun_induction tokensFrom position s generalizing ts
  case case1 => cases h; exact nofun
  case case2 hi => exact hi h
  case case3 position c rest _ token hc hi =>
    obtain ⟨ts, ht, rfl⟩ := map_eq_ok.mp h
    have hp : token.Proper := by
      unfold Token.ofChar? at hc
      split at hc <;> cases hc <;> trivial
    exact List.forall_mem_cons.mpr ⟨hp, hi ht⟩
  case case4 position token c rest _ hc _ hi =>
    obtain ⟨ts, ht, rfl⟩ := map_eq_ok.mp h
    have hp : token.Proper := by
      rcases Token.ofDoubled?_eq_some.mp hc with ⟨_, rfl⟩ | ⟨_, rfl⟩ <;> trivial
    exact List.forall_mem_cons.mpr ⟨hp, hi ht⟩
  case case7 position c rest _ hc tail token _ _ hi =>
    obtain ⟨ts, ht, rfl⟩ := map_eq_ok.mp h
    have hp : Word (String.ofList (c :: tail)) := by
      refine ⟨by simp, ?_⟩
      rw [String.toList_ofList, List.forall_mem_cons]
      exact ⟨hc, fun d hd => List.all_eq_true.mp List.all_takeWhile d hd⟩
    exact List.forall_mem_cons.mpr ⟨hp, hi ht⟩
  all_goals cases h

end Equations

-- A piece of a text is cut into the tokens, unless a word goes on behind it.
def Lexes (s : List Char) (us : List Token) : Prop :=
  ∀ position rest, startsWord rest = false → ∃ ts, ts.map (·.token) = us ∧
    tokensFrom position (s ++ rest) = (tokensFrom (position + s.length) rest).map (ts ++ ·)

namespace Lexes

variable {c : Char} {t : Token} {w : String} {s s' : List Char} {us vs : List Token}

theorem map_map {x : Except TokenFault (List Located)} (ts ts' : List Located) :
    (x.map (ts' ++ ·)).map (ts ++ ·) = x.map (ts ++ ts' ++ ·) := by
  cases x <;> simp [Except.map]

theorem nil : Lexes [] [] :=
  fun position rest _ => ⟨[], rfl, by cases h : tokensFrom position rest <;> simp [h, Except.map]⟩

theorem word (h : Word w) : Lexes w.toList [.word w] := by
  intro position rest hr
  refine ⟨[⟨.word w, position⟩], rfl, ?_⟩
  rw [tokensFrom_word h hr, String.length_toList]
  rfl

-- A word must not run on into what follows it.
theorem append (h : Lexes s us) (h' : Lexes s' vs) (hs : startsWord s' = false) :
    Lexes (s ++ s') (us ++ vs) := by
  intro position rest hr
  have hr' : startsWord (s' ++ rest) = false := by
    cases s'
    case nil  => exact hr
    case cons => exact hs
  obtain ⟨ts, rfl, ht⟩ := h position (s' ++ rest) hr'
  obtain ⟨ts', rfl, ht'⟩ := h' (position + s.length) rest hr
  refine ⟨ts ++ ts', List.map_append, ?_⟩
  rw [List.append_assoc, ht, ht', map_map, List.length_append, Nat.add_assoc]

theorem blank (h : Lexes s us) : Lexes (' ' :: s) us := by
  intro position rest hr
  obtain ⟨ts, ht, he⟩ := h (position + 1) rest hr
  refine ⟨ts, ht, ?_⟩
  rw [List.cons_append, tokensFrom_blank (by decide), he, List.length_cons, Nat.add_right_comm,
    Nat.add_assoc]

theorem single (hc : Token.ofChar? c = some t) (h : Lexes s us) : Lexes (c :: s) (t :: us) := by
  intro position rest hr
  obtain ⟨ts, rfl, he⟩ := h (position + 1) rest hr
  refine ⟨⟨t, position⟩ :: ts, rfl, ?_⟩
  rw [List.cons_append, tokensFrom_single hc, he, List.length_cons, Nat.add_right_comm,
    Nat.add_assoc]
  exact map_map [⟨t, position⟩] ts

theorem doubled (hc : Token.ofDoubled? c = some t) (h : Lexes s us) :
    Lexes (c :: c :: s) (t :: us) := by
  intro position rest hr
  obtain ⟨ts, rfl, he⟩ := h (position + 2) rest hr
  refine ⟨⟨t, position⟩ :: ts, rfl, ?_⟩
  rw [List.cons_append, List.cons_append, tokensFrom_doubled hc, he, List.length_cons,
    List.length_cons, Nat.add_right_comm, Nat.add_assoc]
  exact map_map [⟨t, position⟩] ts

-- The whole of a text.
theorem tokensOf {text : String} (h : Lexes text.toList us) :
    ∃ ts, tokensOf text = .ok ts ∧ ts.map (·.token) = us := by
  obtain ⟨ts, ht, he⟩ := h 0 [] rfl
  refine ⟨ts, ?_, ht⟩
  rw [List.append_nil] at he
  rw [Pointcut.tokensOf, he, tokensFrom]
  simp [Except.map]

end Lexes

end Pointcut
end Interpose
