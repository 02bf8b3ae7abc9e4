import Interpose.Proofs.Pointcut.Grammar

namespace Interpose.Pointcut

-- An expression of a level may stand at another one without parentheses.
def Level.takes : Level → Level → Bool
  | disjunction, _ => true
  | conjunction, own => own != disjunction
  | operand, own => own == operand

def enclosed (parens : Bool) (ts : List Token) : List Token :=
  if parens then .openParen :: (ts ++ [.closeParen]) else ts

namespace Expression

-- The tokens of an expression that stands at a level.
def tokens : Expression → Level → List Token
  | leaf d, _ => d.tokens
  | not e, _ => .not :: e.tokens .operand
  | and l r _, level =>
    enclosed (!level.takes .conjunction) (l.tokens .conjunction ++ .and :: r.tokens .operand)
  | or l r _, level =>
    enclosed (!level.takes .disjunction) (l.tokens .disjunction ++ .or :: r.tokens .conjunction)

-- How many negations and parentheses are around one another when an expression is printed.
def nesting : Expression → Level → Nat
  | leaf _, _ => 0
  | not e, _ => e.nesting .operand + 1
  | and l r _, level =>
    max (l.nesting .conjunction) (r.nesting .operand) + (!level.takes .conjunction).toNat
  | or l r _, level =>
    max (l.nesting .disjunction) (r.nesting .conjunction) + (!level.takes .disjunction).toNat

-- The expression without the positions of its operators.
def unplaced : Expression → Expression
  | leaf d => leaf d
  | not e => not e.unplaced
  | and l r _ => and l.unplaced r.unplaced 0
  | or l r _ => or l.unplaced r.unplaced 0

-- The designators have spellings, and the printed form is not too deep for the parser.
structure Printable (e : Expression) : Prop where
  leaves  : ∀ d ∈ e.leaves, ∃ ts, d.Spelled ts
  nesting : e.nesting .disjunction ≤ maxNesting

end Expression

namespace Derives

variable {level own : Level} {room n : Nat} {e : Expression} {ts : List Located}

theorem of_takes (ht : level.takes own) (h : Derives own room e ts) : Derives level room e ts := by
  cases level <;> cases own
  case operand.operand         => exact h
  case conjunction.operand     => exact .operand h
  case conjunction.conjunction => exact h
  case disjunction.operand     => exact .conjunction (.operand h)
  case disjunction.conjunction => exact .conjunction h
  case disjunction.disjunction => exact h
  all_goals cases ht

theorem of_operand (h : Derives .operand room e ts) : Derives level room e ts :=
  h.of_takes (by cases level <;> rfl)

-- Parentheses take one level of room, and only those that are needed stand there.
theorem of_enclosed {us : List Token} (hn : n + (!level.takes own).toNat ≤ room)
    (ht : ts.map (·.token) = enclosed (!level.takes own) us)
    (h : ∀ {room ts}, n ≤ room → ts.map (·.token) = us →
      ∃ e', Derives own room e' ts ∧ e'.unplaced = e.unplaced) :
    ∃ e', Derives level room e' ts ∧ e'.unplaced = e.unplaced := by
  cases hl : level.takes own <;> rw [hl] at hn ht
  case true =>
    obtain ⟨e', hd, he⟩ := h hn ht
    exact ⟨e', hd.of_takes hl, he⟩
  case false =>
    obtain ⟨i, _, rfl, ht'⟩ := map_token_eq_cons.mp ht
    obtain ⟨ts, j, _, rfl, hu, hc⟩ := map_token_eq_append.mp ht'
    cases List.map_eq_nil_iff.mp hc
    obtain ⟨room, rfl⟩ := Nat.exists_eq_add_of_le' (Nat.le_of_add_left_le hn)
    obtain ⟨e', hd, he⟩ := h (Nat.le_of_add_le_add_right hn) hu
    exact ⟨e', of_operand (.group (hd.of_takes rfl)), he⟩

-- What is printed is derived again, with positions from where the tokens stand.
theorem of_tokens (hs : ∀ d ∈ e.leaves, ∃ ts, d.Spelled ts) (hn : e.nesting level ≤ room)
    (ht : ts.map (·.token) = e.tokens level) :
    ∃ e', Derives level room e' ts ∧ e'.unplaced = e.unplaced := by
  induction e generalizing level room ts
  case leaf d =>
    obtain ⟨us, hu⟩ := hs d (List.mem_singleton_self d)
    have hd : d.Spelled (ts.map (·.token)) := (hu.eq_tokens.trans ht.symm) ▸ hu
    exact ⟨_, of_operand (.leaf hd), rfl⟩
  case not e hi =>
    obtain ⟨i, ts, rfl, hu⟩ := map_token_eq_cons.mp ht
    obtain ⟨room, rfl⟩ := Nat.exists_eq_add_of_le' (Nat.le_of_add_left_le hn)
    obtain ⟨e', hd, he⟩ := hi hs (Nat.le_of_add_le_add_right hn) hu
    exact ⟨_, of_operand (.not hd), congrArg Expression.not he⟩
  case and l r p hl hr =>
    refine of_enclosed hn ht fun {room ts} hn ht => ?_
    obtain ⟨ts, i, us, rfl, htl, htr⟩ := map_token_eq_append.mp ht
    have hsl := fun d hd => hs d (List.mem_append_left _ hd)
    have hsr := fun d hd => hs d (List.mem_append_right _ hd)
    obtain ⟨l', hdl, hel⟩ := hl hsl (Nat.max_le.mp hn).left htl
    obtain ⟨r', hdr, her⟩ := hr hsr (Nat.max_le.mp hn).right htr
    exact ⟨_, .and hdl hdr, by simp only [Expression.unplaced, hel, her]⟩
  case or l r p hl hr =>
    refine of_enclosed hn ht fun {room ts} hn ht => ?_
    obtain ⟨ts, i, us, rfl, htl, htr⟩ := map_token_eq_append.mp ht
    have hsl := fun d hd => hs d (List.mem_append_left _ hd)
    have hsr := fun d hd => hs d (List.mem_append_right _ hd)
    obtain ⟨l', hdl, hel⟩ := hl hsl (Nat.max_le.mp hn).left htl
    obtain ⟨r', hdr, her⟩ := hr hsr (Nat.max_le.mp hn).right htr
    exact ⟨_, .or hdl hdr, by simp only [Expression.unplaced, hel, her]⟩

end Derives

namespace Expression

variable {level : Level} {room : Nat} {e : Expression} {ts : List Located}

theorem nesting_operand_le : e.nesting .operand ≤ e.nesting .disjunction + 1 := by
  cases e <;> simp [nesting, Level.takes] <;> decide

theorem nesting_conjunction_le : e.nesting .conjunction ≤ e.nesting .operand := by
  cases e <;> simp [nesting, Level.takes] <;> decide

theorem nesting_disjunction_le : e.nesting .disjunction ≤ e.nesting .conjunction := by
  cases e <;> simp [nesting, Level.takes]

-- No way of writing an expression is less deep than the printed form.
theorem nesting_le_of_derives (h : Derives level room e ts) : e.nesting level ≤ room := by
  induction h
  case leaf           => exact Nat.zero_le _
  case not hi         => exact Nat.succ_le_succ hi
  case group hi       => exact Nat.le_trans nesting_operand_le (Nat.succ_le_succ hi)
  case operand hi     => exact Nat.le_trans nesting_conjunction_le hi
  case conjunction hi => exact Nat.le_trans nesting_disjunction_le hi
  case and hl hr      => exact Nat.max_le.mpr ⟨hl, hr⟩
  case or hl hr       => exact Nat.max_le.mpr ⟨hl, hr⟩

theorem leaves_of_derives (h : Derives level room e ts) :
    ∀ d ∈ e.leaves, ∃ us, d.Spelled us := by
  induction h
  case leaf h =>
    intro d hd
    cases List.mem_singleton.mp hd
    exact ⟨_, h⟩
  case and hl hr => exact fun d hd => (List.mem_append.mp hd).elim (hl d) (hr d)
  case or hl hr  => exact fun d hd => (List.mem_append.mp hd).elim (hl d) (hr d)
  all_goals assumption

-- Whatever is read can be printed.
theorem printable_of_ofTokens (h : ofTokens ts = .ok e) : e.Printable :=
  have hd := ofTokens_eq_ok.mp h
  ⟨leaves_of_derives hd, nesting_le_of_derives hd⟩

theorem ofTokens_of_tokens (h : e.Printable) (ht : ts.map (·.token) = e.tokens .disjunction) :
    ∃ e', ofTokens ts = .ok e' ∧ e'.unplaced = e.unplaced := by
  obtain ⟨e', hd, he⟩ := Derives.of_tokens h.leaves h.nesting ht
  exact ⟨e', ofTokens_eq_ok.mpr hd, he⟩

-- Reading an expression is recognizing the grammar: a token sequence is read as the one expression
-- that it derives within the bound on nesting, every other one is refused, and what is printed is
-- read back.
theorem ofTokens_recognizes :
    (∀ ts e, ofTokens ts = .ok e ↔ Derives .disjunction maxNesting e ts) ∧
    (∀ ts e e' room room', Derives .disjunction room e ts → Derives .disjunction room' e' ts →
      e = e') ∧
    (∀ ts, (∃ e, ofTokens ts = .ok e ∧ Derives .disjunction maxNesting e ts) ∨
      ∃ fault, ofTokens ts = .error fault ∧ ∀ e, ¬Derives .disjunction maxNesting e ts) ∧
    ∀ (e : Expression) ts, e.Printable → ts.map (·.token) = e.tokens .disjunction →
      ∃ e', ofTokens ts = .ok e' ∧ e'.unplaced = e.unplaced := by
  refine ⟨fun _ _ => ofTokens_eq_ok, fun _ _ _ _ _ => Derives.unique, fun ts => ?_,
    fun _ _ => ofTokens_of_tokens⟩
  cases h : ofTokens ts
  case ok e        => exact .inl ⟨e, rfl, ofTokens_eq_ok.mp h⟩
  case error fault =>
    exact .inr ⟨fault, rfl, fun e hd => nomatch h.symm.trans (ofTokens_eq_ok.mpr hd)⟩

theorem ofTokens_recognizes_group :
    ∃ e', ofTokens [⟨.not, 0⟩, ⟨.openParen, 1⟩, ⟨.word "within", 2⟩, ⟨.openParen, 8⟩,
        ⟨.word "shop.*", 9⟩, ⟨.closeParen, 15⟩, ⟨.or, 17⟩, ⟨.atSign, 20⟩, ⟨.word "within", 21⟩,
        ⟨.openParen, 27⟩, ⟨.word "Till", 28⟩, ⟨.closeParen, 32⟩, ⟨.closeParen, 33⟩] = .ok e' ∧
      e'.unplaced = (Expression.not (.or (.leaf (.within (.parse "shop.*")))
        (.leaf (.annotatedWithin (.parse "Till"))) 17)).unplaced := by
  refine ofTokens_recognizes.right.right.right _ _ ⟨?leaves, by decide⟩ rfl
  case leaves =>
    intro d hd
    simp only [leaves, List.cons_append, List.nil_append, List.mem_cons, List.not_mem_nil,
      or_false] at hd
    rcases hd with rfl | rfl
    · exact ⟨_, .plain (.within ⟨by decide, by decide, by decide⟩)⟩
    · exact ⟨_, .annotated ⟨by decide, by decide, by decide⟩ (.within _)⟩

end Expression
end Interpose.Pointcut
