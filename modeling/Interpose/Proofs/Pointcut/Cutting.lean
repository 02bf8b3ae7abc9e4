import Mathlib.Algebra.Ring.Parity
import Mathlib.Data.List.DropRight
import Interpose.Proofs.Pointcut.Lexing

namespace Interpose.Pointcut

open Outcome

namespace Located

-- The place behind the text of the token.
def stop (t : Located) : Nat := t.position + t.token.lexeme.length

def Covers (t : Located) (i : Nat) : Prop := t.position ≤ i ∧ i < t.stop

end Located

-- A token for a longest run of word characters of the text.
structure WholeWord (s : List Char) (t : Located) (w : String) : Prop where
  word   : Word w
  before : (s.take t.position).getLast?.any isWordChar = false
  behind : startsWord (s.drop t.stop) = false

-- The tokens of a text from a place on.
structure Cut (n : Nat) (s : List Char) (ts : List Located) : Prop where
  starts     : ∀ t ∈ ts, n ≤ t.position
  texts      : ∀ t ∈ ts, t.token.lexeme.toList <+: s.drop t.position
  increasing : ts.Pairwise (·.position < ·.position)
  apart      : ts.Pairwise (·.stop ≤ ·.position)
  outside    : ∀ i c, n ≤ i → s[i]? = some c → (∀ t ∈ ts, ¬t.Covers i) → Text.isBlank c = true
  words      : ∀ t ∈ ts, ∀ w, t.token = .word w → WholeWord s t w

-- How many of the same character in a row are at the end of a text.
def trailing (c : Char) (s : List Char) : Nat := (s.rtakeWhile (· == c)).length

-- What the character at a place can be when a text is read from the left. The characters of the
-- operators count in pairs, so one that has an even number of its kind right before it has to have
-- a twin behind it.
inductive Legible (s : List Char) (i : Nat) : Prop
  | blank {c : Char} : s[i]? = some c → Text.isBlank c = true → Legible s i
  | word {c : Char} : s[i]? = some c → isWordChar c = true → Legible s i
  | single {c : Char} : s[i]? = some c → c ∈ ['(', ')', ',', '!', '@'] → Legible s i
  | first {c : Char} : s[i]? = some c → c ∈ ['&', '|'] → Even (trailing c (s.take i)) →
    s[i + 1]? = some c → Legible s i
  | second {c : Char} : s[i]? = some c → c ∈ ['&', '|'] → Odd (trailing c (s.take i)) → Legible s i

-- What is said of a character that is not legible.
def faultAt (c : Char) (i : Nat) : TokenFault :=
  if c ∈ ['&', '|'] then .undoubled c i else .stray c i

-- The leftmost character that is not legible is to blame.
inductive Blames (s : List Char) : TokenFault → Prop
  | intro {i : Nat} {c : Char} : s[i]? = some c → ¬Legible s i → (∀ j < i, Legible s j) →
    Blames s (faultAt c i)

-- The run over the rest of a text, by what it begins with, and what comes of it.
inductive Scans : List Char → List Char → Except TokenFault (List Located) → Prop
  | done {before : List Char} : Scans before [] (.ok [])
  | blank {c : Char} {before s : List Char} {r : Except TokenFault (List Located)} :
    Text.isBlank c = true → Scans (before ++ [c]) s r → Scans before (c :: s) r
  | token {t : Token} {before cs s : List Char} {r : Except TokenFault (List Located)} :
    t.lexeme.toList = cs → t.Proper → (∀ w, t = .word w → startsWord s = false) →
    Scans (before ++ cs) s r → Scans before (cs ++ s) (r.map (⟨t, before.length⟩ :: ·))
  | fault {c : Char} {before s : List Char} : Text.isBlank c = false → isWordChar c = false →
    c ∉ ['(', ')', ',', '!', '@'] → (c ∈ ['&', '|'] → s.head? ≠ some c) →
    Scans before (c :: s) (.error (faultAt c before.length))

section Characters

variable {c : Char} {t : Token} {s : List Char}

theorem lexeme_of_ofChar? (h : Token.ofChar? c = some t) :
    t.lexeme.toList = [c] ∧ t.Proper ∧ ∀ w, t ≠ .word w := by
  unfold Token.ofChar? at h
  split at h <;> cases h
  all_goals exact ⟨rfl, trivial, nofun⟩

theorem ofChar?_eq_none : Token.ofChar? c = none ↔ c ∉ ['(', ')', ',', '!', '@'] := by
  unfold Token.ofChar?
  split <;> simp_all

theorem ofDoubled?_eq_none : Token.ofDoubled? c = none ↔ c ∉ ['&', '|'] := by
  unfold Token.ofDoubled?
  split <;> simp_all

theorem lexeme_of_ofDoubled? (h : Token.ofDoubled? c = some t) :
    t.lexeme.toList = [c, c] ∧ t.Proper ∧ (∀ w, t ≠ .word w) ∧ c ∈ ['&', '|'] := by
  rcases Token.ofDoubled?_eq_some.mp h with ⟨rfl, rfl⟩ | ⟨rfl, rfl⟩
  · exact ⟨rfl, trivial, nofun, by simp⟩
  · exact ⟨rfl, trivial, nofun, by simp⟩

theorem startsWord_dropWhile : startsWord (s.dropWhile isWordChar) = false := by
  cases h : s.dropWhile isWordChar
  case nil => rfl
  case cons d rest => simpa [startsWord, h] using List.head?_dropWhile_not isWordChar s

theorem word_cons_takeWhile (h : isWordChar c = true) :
    Word (String.ofList (c :: s.takeWhile isWordChar)) := by
  refine .of_all (by simp) ?_
  rw [String.toList_ofList, List.all_cons, h, List.all_takeWhile, Bool.and_true]

end Characters

section Runs

variable {c d : Char} {t : Token} {before s rest : List Char}
variable {r : Except TokenFault (List Located)}

theorem Scans.undoubled (h : Token.ofDoubled? c = some t) (hs : s.head? ≠ some c) :
    Scans before (c :: s) (.error (.undoubled c before.length)) := by
  have ⟨_, _, _, hc⟩ := lexeme_of_ofDoubled? h
  have hf : faultAt c before.length = .undoubled c before.length := if_pos hc
  rw [← hf]
  rcases Token.ofDoubled?_eq_some.mp h with ⟨rfl, _⟩ | ⟨rfl, _⟩
  · exact .fault (by decide) (by decide) (by decide) fun _ => hs
  · exact .fault (by decide) (by decide) (by decide) fun _ => hs

theorem Scans.stray (hb : Text.isBlank c = false) (hw : isWordChar c = false)
    (hs : Token.ofChar? c = none) (hd : Token.ofDoubled? c = none) :
    Scans before (c :: s) (.error (.stray c before.length)) := by
  have hc := ofDoubled?_eq_none.mp hd
  have hf : faultAt c before.length = .stray c before.length := if_neg hc
  rw [← hf]
  exact .fault hb hw (ofChar?_eq_none.mp hs) fun h => absurd h hc

-- The cases are the turns of the loop, from white space to a character that begins no token.
theorem scans_tokensFrom (before s : List Char) : Scans before s (tokensFrom before.length s) := by
  generalize hp : before.length = position
  fun_induction tokensFrom position s generalizing before <;> subst hp
  case case1 => exact .done
  case case2 c rest hb hi => exact .blank hb (hi _ (by simp))
  case case3 c rest _ token hc hi =>
    obtain ⟨hl, hp, hw⟩ := lexeme_of_ofChar? hc
    exact .token hl hp (fun w h => absurd h (hw w)) (hi (before ++ [c]) (by simp))
  case case4 token c rest _ hc _ hi =>
    obtain ⟨hl, hp, hw, _⟩ := lexeme_of_ofDoubled? hc
    exact .token hl hp (fun w h => absurd h (hw w)) (hi (before ++ [c, c]) (by simp))
  case case5 hc d rest hn _ => exact .undoubled hc (by simpa using hn)
  case case6 hc _ => exact .undoubled hc (by simp)
  case case7 c rest _ hc tail token _ _ hi =>
    have h := hi (before ++ c :: tail) (by simp [Nat.add_comm, Nat.add_left_comm])
    have hs : c :: rest = (c :: tail) ++ rest.dropWhile isWordChar := by
      rw [List.cons_append, List.takeWhile_append_dropWhile]
    rw [hs]
    exact .token String.toList_ofList (word_cons_takeWhile hc) (fun _ _ => startsWord_dropWhile) h
  case case8 hb hw hs hd =>
    exact .stray (by simpa using hb) (by simpa using hw) (Option.eq_none_iff_forall_ne_some.mpr hs)
      (Option.eq_none_iff_forall_ne_some.mpr hd)

theorem trailing_concat : trailing c (s ++ [d]) = if d = c then trailing c s + 1 else 0 := by
  rw [trailing, List.rtakeWhile_concat]
  by_cases h : d = c
  case pos => simp [h, trailing]
  case neg => simp [h]

-- All that has been read is in pairs.
def Paired (s : List Char) : Prop := ∀ c ∈ ['&', '|'], Even (trailing c s)

theorem Paired.append (h : Paired before) (hs : ∀ d ∈ s, d ∉ ['&', '|']) :
    Paired (before ++ s) := by
  induction s generalizing before
  case nil => simpa using h
  case cons d s hi =>
    have ⟨hd, hs⟩ := List.forall_mem_cons.mp hs
    rw [List.append_cons]
    refine hi (fun c hc => ?_) hs
    have hn : d ≠ c := fun he => hd (he ▸ hc)
    simp [trailing_concat, hn]

theorem Paired.pair (h : Paired before) : Paired (before ++ [d, d]) := by
  intro c hc
  rw [List.append_cons, trailing_concat, trailing_concat]
  by_cases hd : d = c
  case pos => simpa [hd, Nat.even_add_one] using h c hc
  case neg => simp [hd]

-- The texts of tokens: words, single characters and doubled ones.
theorem Token.Proper.text (ht : t.Proper) : (∀ c ∈ t.lexeme.toList, isWordChar c = true) ∨
    (∃ c ∈ ['(', ')', ',', '!', '@'], t.lexeme.toList = [c]) ∨
      ∃ c ∈ ['&', '|'], t.lexeme.toList = [c, c] := by
  cases t
  case word => exact .inl ht.chars
  case and  => exact .inr (.inr ⟨'&', by decide, rfl⟩)
  case or   => exact .inr (.inr ⟨'|', by decide, rfl⟩)
  all_goals exact .inr (.inl ⟨_, by decide, rfl⟩)

theorem Paired.lexeme (h : Paired before) (ht : t.Proper) :
    Paired (before ++ t.lexeme.toList) := by
  have hn : ∀ d ∈ ['&', '|'], isWordChar d = false ∧ d ∉ ['(', ')', ',', '!', '@'] := by
    refine List.forall_mem_cons.mpr ⟨?_, List.forall_mem_singleton.mpr ?_⟩ <;> decide
  rcases ht.text with hw | ⟨c, hc, hs⟩ | ⟨c, _, hs⟩
  case inl =>
    refine h.append fun d hd hm => ?_
    cases (hn d hm).left.symm.trans (hw d hd)
  case inr.inl =>
    rw [hs]
    refine h.append fun d hd hm => ?_
    cases List.mem_singleton.mp hd
    exact (hn c hm).right hc
  case inr.inr =>
    rw [hs]
    exact h.pair

theorem getElem?_between (before cs s : List Char) {j : Nat} (hj : j < cs.length) :
    (before ++ cs ++ s)[before.length + j]? = some cs[j] := by
  simp [List.append_assoc, List.getElem?_append_right, List.getElem?_append_left, hj]

theorem Paired.legible_pair (h : Paired before) (hd : d ∈ ['&', '|']) {j : Nat} (hj : j < 2) :
    Legible (before ++ [d, d] ++ s) (before.length + j) := by
  have hc : ∀ k, k < 2 → (before ++ [d, d] ++ s)[before.length + k]? = some d := by
    intro k hk
    rw [getElem?_between before [d, d] s hk]
    match k with
    | 0 => rfl
    | 1 => rfl
  match j with
  | 0 =>
    refine .first (hc 0 hj) hd ?_ (hc 1 (by decide))
    simpa using h d hd
  | 1 =>
    refine .second (hc 1 hj) hd ?_
    have ht : (before ++ [d, d] ++ s).take (before.length + 1) = before ++ [d] := by
      rw [List.append_cons, List.append_assoc, List.take_left' (by simp)]
    rw [ht, trailing_concat, if_pos rfl]
    exact (h d hd).add_one

-- The places of a token hold characters that can be read.
theorem Paired.legible (h : Paired before) (ht : t.Proper) {i : Nat} (hi : before.length ≤ i)
    (hl : i < (before ++ t.lexeme.toList).length) :
    Legible (before ++ t.lexeme.toList ++ s) i := by
  obtain ⟨j, rfl⟩ := Nat.exists_eq_add_of_le hi
  have hj : j < t.lexeme.toList.length := by simpa using hl
  have hc := getElem?_between before t.lexeme.toList s hj
  rcases ht.text with hw | ⟨c, hm, hs⟩ | ⟨c, hm, hs⟩
  case inl => exact .word hc (hw _ (List.getElem_mem hj))
  case inr.inl =>
    have he : t.lexeme.toList[j] = c := List.mem_singleton.mp (hs ▸ List.getElem_mem hj)
    exact .single hc (he ▸ hm)
  case inr.inr =>
    rw [hs] at hj ⊢
    exact h.legible_pair hm hj

theorem not_legible (hb : Text.isBlank c = false) (hw : isWordChar c = false)
    (hs : c ∉ ['(', ')', ',', '!', '@']) (hd : c ∈ ['&', '|'] → s.head? ≠ some c)
    (h : Paired before) : ¬Legible (before ++ c :: s) before.length := by
  have hc : (before ++ c :: s)[before.length]? = some c := by simp
  rintro (⟨h', hx⟩ | ⟨h', hx⟩ | ⟨h', hx⟩ | ⟨h', hx, _, ht⟩ | ⟨h', hx, ho⟩) <;>
    cases hc.symm.trans h'
  case blank => cases hb.symm.trans hx
  case word => cases hw.symm.trans hx
  case single => exact hs hx
  case first => exact hd hx (by simpa [← List.head?_drop] using ht)
  case second => exact Nat.not_even_iff_odd.mpr (by simpa using ho) (h c hx)

-- Whatever has been passed can be read. Since it is in pairs, a character of an operator where the
-- rest begins has an even number of its kind before it, and without a twin it cannot be read.
theorem Scans.legible (h : Scans before s r) (hb : Paired before)
    (hl : ∀ i < before.length, Legible (before ++ s) i) :
    (∀ ts, r = .ok ts → ∀ i < (before ++ s).length, Legible (before ++ s) i) ∧
      ∀ f, r = .error f → Blames (before ++ s) f := by
  induction h
  case done => exact ⟨fun _ _ => by simpa using hl, nofun⟩
  case blank c before s r hc _ hi =>
    rw [List.append_cons] at hl ⊢
    have hd : ∀ d ∈ [c], d ∉ ['&', '|'] := by
      intro d hd hm
      cases List.mem_singleton.mp hd
      simp only [List.mem_cons, List.not_mem_nil, or_false] at hm
      rcases hm with rfl | rfl <;> revert hc <;> decide
    refine hi (hb.append hd) fun i hi => ?_
    by_cases hlt : i < before.length
    case pos => exact hl i hlt
    case neg =>
      have he : i = before.length := by simp at hi; omega
      exact .blank (c := c) (by simp [he]) hc
  case token t before cs s r hcs ht _ _ hi =>
    subst hcs
    rw [← List.append_assoc] at hl ⊢
    have hs := hi (hb.lexeme ht) fun i hi => by
      by_cases hlt : i < before.length
      case pos => exact hl i hlt
      case neg => exact hb.legible ht (Nat.le_of_not_lt hlt) hi
    constructor
    case left =>
      intro ts hr
      obtain ⟨_, hr, _⟩ := map_eq_ok.mp hr
      exact hs.left _ hr
    case right =>
      intro f hr
      cases r <;> cases hr
      exact hs.right f rfl
  case fault c before s hc hw hs hd =>
    refine ⟨nofun, ?_⟩
    rintro _ ⟨⟩
    exact .intro (by simp) (not_legible hc hw hs hd hb) hl

theorem Token.Proper.lexeme_ne_empty (ht : t.Proper) : t.lexeme ≠ "" := by
  cases t
  case word => exact ht.nonempty
  all_goals decide

theorem Cut.nil {n : Nat} (h : s.length ≤ n) : Cut n s [] where
  starts _     := nofun
  texts _      := nofun
  increasing   := .nil
  apart        := .nil
  outside i c hi hc _ := by
    have hn : s[i]? = none := List.getElem?_eq_none (Nat.le_trans h hi)
    cases hn.symm.trans hc
  words _      := nofun

theorem Cut.blank {n : Nat} {ts : List Located} (h : Cut (n + 1) s ts) (hc : s[n]? = some c)
    (hb : Text.isBlank c = true) : Cut n s ts where
  starts t ht := Nat.le_of_succ_le (h.starts t ht)
  texts       := h.texts
  increasing  := h.increasing
  apart       := h.apart
  outside i d hi hd ho := by
    cases Nat.eq_or_lt_of_le hi
    case inl he =>
      subst he
      cases hc.symm.trans hd
      exact hb
    case inr hlt => exact h.outside i d hlt hd ho
  words       := h.words

theorem Cut.cons {t : Located} {ts : List Located} (h : Cut t.stop s ts)
    (ht : t.token.lexeme.toList <+: s.drop t.position) (hn : t.token.lexeme ≠ "")
    (hw : ∀ w, t.token = .word w → WholeWord s t w) : Cut t.position s (t :: ts) where
  starts := by
    have hs : t.position ≤ t.stop := Nat.le_add_right ..
    exact List.forall_mem_cons.mpr ⟨Nat.le_refl _, fun u hu => Nat.le_trans hs (h.starts u hu)⟩
  texts      := List.forall_mem_cons.mpr ⟨ht, h.texts⟩
  increasing := by
    have hp : 0 < t.token.lexeme.length := Nat.pos_of_ne_zero (mt String.length_eq_zero_iff.mp hn)
    have hs : t.position < t.stop := Nat.lt_add_of_pos_right hp
    exact .cons (fun u hu => Nat.lt_of_lt_of_le hs (h.starts u hu)) h.increasing
  apart      := .cons h.starts h.apart
  outside i c hi hc ho := by
    have ⟨hnot, ho⟩ := List.forall_mem_cons.mp ho
    have hs : t.stop ≤ i := Nat.le_of_not_lt fun hlt => hnot ⟨hi, hlt⟩
    exact h.outside i c hs hc ho
  words      := List.forall_mem_cons.mpr ⟨hw, h.words⟩

-- A word begins only where no other word ends.
def Detached (before s : List Char) : Prop :=
  before.getLast?.any isWordChar = true → startsWord s = false

theorem Detached.concat (h : isWordChar c = false) : Detached (before ++ [c]) s := by
  simp [Detached, h]

theorem Detached.lexeme (hl : ∀ w, t = .word w → startsWord s = false) :
    Detached (before ++ t.lexeme.toList) s := by
  cases t
  case word w => exact fun _ => hl w rfl
  case and    => exact List.append_cons .. ▸ .concat (by decide)
  case or     => exact List.append_cons .. ▸ .concat (by decide)
  all_goals exact .concat (by decide)

theorem Detached.wholeWord {w : String} (h : Detached before (w.toList ++ s)) (hw : Word w)
    (hs : startsWord s = false) :
    WholeWord (before ++ (w.toList ++ s)) ⟨.word w, before.length⟩ w where
  word   := hw
  before := by
    rw [List.take_left, Bool.eq_false_iff]
    intro hb
    cases hc : w.toList
    case nil => exact hw.nonempty (String.toList_eq_nil_iff.mp hc)
    case cons c cs =>
      have hf : isWordChar c = false := by simpa [startsWord, hc] using h hb
      cases hf.symm.trans (hw.chars c (by simp [hc]))
  behind := by
    have hd : (before ++ (w.toList ++ s)).drop (before.length + w.length) = s := by
      rw [← List.append_assoc, List.drop_left' (by simp [String.length_toList])]
    simpa [Located.stop, Token.lexeme, hd] using hs

-- No word goes on where the rest begins, so the words of the rest are whole.
theorem Scans.cut {ts : List Located} (h : Scans before s r) (hd : Detached before s)
    (hr : r = .ok ts) : Cut before.length (before ++ s) ts := by
  induction h generalizing ts
  case done =>
    cases hr
    exact .nil (by simp)
  case blank c before s r hb _ hi =>
    have hc : isWordChar c = false := by
      rw [Bool.eq_false_iff]
      intro hw
      cases (isWordChar_plain hw).left.symm.trans hb
    have hs := hi (.concat hc) hr
    rw [List.append_assoc, List.length_append] at hs
    exact hs.blank (by simp) hb
  case token t before cs s r hcs ht hl _ hi =>
    subst hcs
    obtain ⟨ts, hts, rfl⟩ := map_eq_ok.mp hr
    have hs := hi (.lexeme hl) hts
    rw [List.append_assoc, List.length_append, String.length_toList] at hs
    refine Cut.cons (t := ⟨t, before.length⟩) hs ?_ ht.lexeme_ne_empty ?_
    case refine_1 => simp
    case refine_2 =>
      rintro w rfl
      exact hd.wholeWord ht (hl w rfl)
  case fault => cases hr

end Runs

section Texts

variable {text : String} {ts : List Located} {t : Located} {f f' : TokenFault}

theorem cut_of_tokensOf (h : tokensOf text = .ok ts) : Cut 0 text.toList ts :=
  (scans_tokensFrom [] text.toList).cut nofun h

theorem Paired.nil : Paired [] := fun c _ => by simp [trailing]

theorem legible_of_tokensOf (h : tokensOf text = .ok ts) :
    ∀ i < text.toList.length, Legible text.toList i :=
  ((scans_tokensFrom [] text.toList).legible .nil nofun).left ts h

theorem blames_of_tokensOf (h : tokensOf text = .error f) : Blames text.toList f :=
  ((scans_tokensFrom [] text.toList).legible .nil nofun).right f h

-- Only one character is the leftmost.
theorem Blames.unique {s : List Char} (h : Blames s f) (h' : Blames s f') : f = f' := by
  cases h
  case intro i c hc hi hl =>
  cases h'
  case intro i' c' hc' hi' hl' =>
  rcases Nat.lt_trichotomy i i' with hlt | rfl | hlt
  case inl => exact absurd (hl' i hlt) hi
  case inr.inl => cases hc.symm.trans hc'; rfl
  case inr.inr => exact absurd (hl i' hlt) hi'

theorem Blames.not_legible {s : List Char} (h : Blames s f) : ¬∀ i < s.length, Legible s i := by
  intro hl
  cases h
  case intro hc hi _ =>
    have ⟨hlt, _⟩ := List.getElem?_eq_some_iff.mp hc
    exact hi (hl _ hlt)

end Texts

-- Cutting a text comes to an end with its tokens or with a fault. There are tokens just if each
-- character can be read, and then they are where their texts are, words reach as far as they can,
-- and only white space is outside. A fault is at the leftmost character that cannot be read.
theorem tokensOf_exact (text : String) :
    ((∃ ts, tokensOf text = .ok ts) ↔ ∀ i < text.toList.length, Legible text.toList i) ∧
    (∀ ts, tokensOf text = .ok ts → Cut 0 text.toList ts) ∧
    ∀ f, tokensOf text = .error f ↔ Blames text.toList f := by
  cases h : tokensOf text
  case ok ts =>
    have hl := legible_of_tokensOf h
    refine ⟨iff_of_true ⟨ts, rfl⟩ hl, ?_, fun f => iff_of_false nofun fun hb => hb.not_legible hl⟩
    rintro _ ⟨⟩
    exact cut_of_tokensOf h
  case error f =>
    have hb := blames_of_tokensOf h
    refine ⟨iff_of_false nofun hb.not_legible, nofun, fun f' => ?_⟩
    constructor
    case mp  => rintro ⟨⟩; exact hb
    case mpr => exact fun hb' => hb.unique hb' ▸ rfl

-- Of three in a row the last one has no twin.
example : tokensOf "a &&& b" = .error (.undoubled '&' 4) := by decide +kernel

end Interpose.Pointcut
