import Interpose.Proofs.Pointcut.Reading

namespace Interpose.Pointcut

-- The levels of the grammar, the closest first.
inductive Level
  | operand
  | conjunction
  | disjunction
  deriving DecidableEq, Repr

-- The grammar of expressions: operands are joined from the left. No more than `room` negations and
-- grouping parentheses are around any of them at once.
inductive Derives : Level → Nat → Expression → List Located → Prop
  | leaf {room : Nat} {d : Designator} {ts : List Located} : d.Spelled (ts.map (·.token)) →
    Derives .operand room (.leaf d) ts
  | not {room i : Nat} {e : Expression} {ts : List Located} : Derives .operand room e ts →
    Derives .operand (room + 1) (.not e) (⟨.not, i⟩ :: ts)
  | group {room i j : Nat} {e : Expression} {ts : List Located} : Derives .disjunction room e ts →
    Derives .operand (room + 1) e (⟨.openParen, i⟩ :: (ts ++ [⟨.closeParen, j⟩]))
  | operand {room : Nat} {e : Expression} {ts : List Located} : Derives .operand room e ts →
    Derives .conjunction room e ts
  | and {room i : Nat} {l r : Expression} {ts us : List Located} : Derives .conjunction room l ts →
    Derives .operand room r us → Derives .conjunction room (.and l r i) (ts ++ ⟨.and, i⟩ :: us)
  | conjunction {room : Nat} {e : Expression} {ts : List Located} : Derives .conjunction room e ts →
    Derives .disjunction room e ts
  | or {room i : Nat} {l r : Expression} {ts us : List Located} : Derives .disjunction room l ts →
    Derives .conjunction room r us → Derives .disjunction room (.or l r i) (ts ++ ⟨.or, i⟩ :: us)

-- Operands that are joined from the left.
inductive Joined (D : Expression → List Located → Prop) (operator : Token)
    (join : Expression → Expression → Nat → Expression) : Expression → List Located → Prop
  | one {e : Expression} {ts : List Located} : D e ts → Joined D operator join e ts
  | more {l r : Expression} {ts us : List Located} {i : Nat} : Joined D operator join l ts →
    D r us → Joined D operator join (join l r i) (ts ++ ⟨operator, i⟩ :: us)

namespace Parser

variable {ts rest : List Located}

-- A parser that takes just the tokens from which a relation derives an expression, where the right
-- thing follows them.
structure Recognizes (p : Parser Expression) (D : Expression → List Located → Prop)
    (Follows : List Located → Prop) : Prop where
  eq_ok : ∀ {ts e rest}, p ts = .ok (e, rest) ↔ ∃ used, ts = used ++ rest ∧ D e used ∧ Follows rest

section Joined

variable {operand : Parser Expression} {operator : Token}
variable {join : Expression → Expression → Nat → Expression}
variable {D : Expression → List Located → Prop} {Follows : List Located → Prop}

theorem moreOperands_of_not_ahead {bound : Nat} {left : Expression} (h : ahead ts ≠ some operator) :
    moreOperands operand operator join bound left ts = .ok (left, ts) := by
  cases bound
  case zero => rfl
  case succ =>
    rw [moreOperands, get_bind]
    rcases ts with _ | ⟨⟨token, position⟩, ts⟩
    case nil => rfl
    case cons =>
      have hn : token ≠ operator := fun he => h (congrArg some he)
      simp only [if_neg hn]
      rfl

theorem moreOperands_operator {bound position : Nat} {left e : Expression} :
    moreOperands operand operator join (bound + 1) left (⟨operator, position⟩ :: ts) =
        .ok (e, rest) ↔
      ∃ right mid, operand ts = .ok (right, mid) ∧
        moreOperands operand operator join bound (join left right position) mid =
          .ok (e, rest) := by
  rw [moreOperands, get_bind]
  simp only [if_true, set_bind, bind_eq_ok]

-- Each operand that is read adds to what has been joined so far, and reading stops only where no
-- operator follows.
theorem Recognizes.moreOperands (hp : Recognizes operand D Follows) {bound : Nat}
    {left e : Expression} {before : List Located} (hb : ts.length ≤ bound)
    (hl : Joined D operator join left before) (hf : Follows ts)
    (h : Parser.moreOperands operand operator join bound left ts = .ok (e, rest)) :
    ∃ used, ts = used ++ rest ∧ Joined D operator join e (before ++ used) ∧ Follows rest ∧
      ahead rest ≠ some operator := by
  induction bound generalizing ts left before
  case zero =>
    cases List.eq_nil_of_length_eq_zero (Nat.le_zero.mp hb)
    cases h
    exact ⟨[], rfl, by simpa using hl, hf, by simp [ahead]⟩
  case succ bound hi =>
    by_cases ha : ahead ts = some operator
    case neg =>
      rw [moreOperands_of_not_ahead ha] at h
      cases h
      exact ⟨[], rfl, by simpa using hl, hf, ha⟩
    case pos =>
      obtain ⟨position, ts, rfl⟩ := ahead_eq_some.mp ha
      obtain ⟨right, mid, hr, h'⟩ := moreOperands_operator.mp h
      obtain ⟨used, rfl, hd, hm⟩ := hp.eq_ok.mp hr
      have hb' : mid.length ≤ bound := by simp at hb; omega
      obtain ⟨used', rfl, he, hr⟩ := hi hb' (.more hl hd) hm h'
      exact ⟨⟨operator, position⟩ :: (used ++ used'), by simp, by simpa using he, hr⟩

-- Joined operands are read from the left, with as many rounds left as there are tokens.
theorem Recognizes.joined_of_joined (hp : Recognizes operand D Follows)
    (ho : ∀ position ts, Follows (⟨operator, position⟩ :: ts)) {e : Expression}
    {used : List Located} (h : Joined D operator join e used) (hf : Follows rest) :
    ∃ bound, rest.length ≤ bound ∧ joined operand operator join (used ++ rest) =
      Parser.moreOperands operand operator join bound e rest := by
  induction h generalizing rest
  case one e used hd =>
    refine ⟨rest.length, Nat.le_refl _, ?_⟩
    have hr : operand (used ++ rest) = .ok (e, rest) := hp.eq_ok.mpr ⟨used, rfl, hd, hf⟩
    rw [joined, bind_of_ok hr]
    rfl
  case more l r ts us position hl hd hi =>
    obtain ⟨bound, hb, he⟩ := hi (ho position (us ++ rest))
    cases bound
    case zero => cases hb
    case succ bound =>
      have hr : operand (us ++ rest) = .ok (r, rest) := hp.eq_ok.mpr ⟨us, rfl, hd, hf⟩
      refine ⟨bound, ?_, ?_⟩
      case refine_1 => simp at hb; omega
      case refine_2 =>
        rw [List.append_assoc, List.cons_append, he, Parser.moreOperands, get_bind]
        simp only [if_true, set_bind]
        exact bind_of_ok hr

theorem Recognizes.joined (hp : Recognizes operand D Follows)
    (ho : ∀ position ts, Follows (⟨operator, position⟩ :: ts)) :
    Recognizes (joined operand operator join) (Joined D operator join)
      (fun ts => Follows ts ∧ ahead ts ≠ some operator) := by
  constructor
  intro ts e rest
  constructor
  case mp =>
    intro h
    obtain ⟨first, mid, hf, h'⟩ := bind_eq_ok.mp h
    obtain ⟨used, rfl, hd, hm⟩ := hp.eq_ok.mp hf
    rw [get_bind] at h'
    obtain ⟨used', rfl, he, hr⟩ := hp.moreOperands (Nat.le_refl _) (.one hd) hm h'
    exact ⟨used ++ used', by simp, he, hr⟩
  case mpr =>
    rintro ⟨used, rfl, he, hf, ha⟩
    obtain ⟨bound, _, h⟩ := hp.joined_of_joined ho he hf
    exact h.trans (moreOperands_of_not_ahead ha)

end Joined

section Expressions

variable {room : Nat} {e : Expression} {d : Designator} {used : List Located}

theorem derives_conjunction_iff :
    Derives .conjunction room e ts ↔ Joined (Derives .operand room) .and .and e ts := by
  constructor
  case mp =>
    intro h
    generalize hl : Level.conjunction = level at h
    induction h <;> cases hl
    case operand hd _ => exact .one hd
    case and hr hi _  => exact .more (hi rfl) hr
  case mpr =>
    intro h
    induction h
    case one hd     => exact .operand hd
    case more hr hi => exact .and hi hr

theorem derives_disjunction_iff :
    Derives .disjunction room e ts ↔ Joined (Derives .conjunction room) .or .or e ts := by
  constructor
  case mp =>
    intro h
    generalize hl : Level.disjunction = level at h
    induction h <;> cases hl
    case conjunction hd _ => exact .one hd
    case or hr hi _       => exact .more (hi rfl) hr
  case mpr =>
    intro h
    induction h
    case one hd     => exact .conjunction hd
    case more hr hi => exact .or hi hr

theorem Recognizes.conjunction
    (h : Recognizes (operand room) (Derives .operand room) fun _ => True) :
    Recognizes (conjunction (operand room)) (Derives .conjunction room) (ahead · ≠ some .and) := by
  have hj : Recognizes (Parser.conjunction (operand room)) _ _ := h.joined fun _ _ => trivial
  constructor
  intro ts e rest
  rw [hj.eq_ok]
  simp only [derives_conjunction_iff, true_and]

-- After a disjunction neither of the operators follows.
theorem Recognizes.disjunction
    (h : Recognizes (operand room) (Derives .operand room) fun _ => True) :
    Recognizes (disjunction (operand room)) (Derives .disjunction room)
      (fun ts => ahead ts ≠ some .and ∧ ahead ts ≠ some .or) := by
  have hj : Recognizes (Parser.disjunction (operand room)) _ _ :=
    h.conjunction.joined fun _ _ => by simp [ahead]
  constructor
  intro ts e rest
  rw [hj.eq_ok]
  simp only [derives_disjunction_iff]

theorem ahead_of_spelled (h : d.Spelled (used.map (·.token))) :
    ahead (used ++ rest) = some .atSign ∨ ∃ w, ahead (used ++ rest) = some (.word w) := by
  generalize hu : used.map (·.token) = us at h
  cases h <;> obtain ⟨_, _, rfl, _⟩ := map_token_eq_cons.mp hu
  case plain      => exact .inr ⟨_, rfl⟩
  case annotated => exact .inl rfl

theorem leaf_eq_ok : (do return .leaf (← designator) : Parser Expression) ts = .ok (e, rest) ↔
    ∃ used d, ts = used ++ rest ∧ d.Spelled (used.map (·.token)) ∧ .leaf d = e := by
  simp only [bind_eq_ok, designator_eq_ok, pure_eq_ok]
  grind

theorem operand_of_not_ahead (hn : ahead ts ≠ some .not) (ho : ahead ts ≠ some .openParen) :
    operand room ts = (do return .leaf (← designator) : Parser Expression) ts := by
  rcases ts with _ | ⟨⟨token, i⟩, ts⟩
  case nil => cases room <;> rfl
  case cons =>
    cases token
    case not       => exact (hn rfl).elim
    case openParen => exact (ho rfl).elim
    all_goals cases room <;> rfl

theorem operand_not {i : Nat} : operand room (⟨.not, i⟩ :: ts) = .ok (e, rest) ↔
    ∃ r e', room = r + 1 ∧ operand r ts = .ok (e', rest) ∧ .not e' = e := by
  cases room
  case zero => simp [operand, get_bind]
  case succ room =>
    rw [operand, get_bind]
    simp only [set_bind, bind_eq_ok, pure_eq_ok]
    grind

theorem operand_group {i : Nat} : operand room (⟨.openParen, i⟩ :: ts) = .ok (e, rest) ↔
    ∃ r j, room = r + 1 ∧ disjunction (operand r) ts = .ok (e, ⟨.closeParen, j⟩ :: rest) := by
  cases room
  case zero => simp [operand, get_bind]
  case succ room =>
    rw [operand, get_bind]
    simp only [set_bind, bind_eq_ok, expect_eq_ok, pure_eq_ok]
    grind

theorem operand_recognizes (room : Nat) :
    Recognizes (operand room) (Derives .operand room) fun _ => True := by
  induction room using Nat.strongRecOn
  case ind room hi =>
  constructor
  intro ts e rest
  constructor
  case mp =>
    intro h
    by_cases hn : ahead ts = some .not
    case pos =>
      obtain ⟨i, ts, rfl⟩ := ahead_eq_some.mp hn
      obtain ⟨r, e, rfl, h', rfl⟩ := operand_not.mp h
      obtain ⟨used, rfl, hd, _⟩ := (hi r (Nat.lt_succ_self r)).eq_ok.mp h'
      exact ⟨⟨.not, i⟩ :: used, rfl, .not hd, trivial⟩
    case neg =>
    by_cases ho : ahead ts = some .openParen
    case pos =>
      obtain ⟨i, ts, rfl⟩ := ahead_eq_some.mp ho
      obtain ⟨r, j, rfl, h'⟩ := operand_group.mp h
      obtain ⟨used, rfl, hd, _⟩ := (hi r (Nat.lt_succ_self r)).disjunction.eq_ok.mp h'
      exact ⟨⟨.openParen, i⟩ :: (used ++ [⟨.closeParen, j⟩]), by simp, .group hd, trivial⟩
    case neg =>
      rw [operand_of_not_ahead hn ho] at h
      obtain ⟨used, d, rfl, hd, rfl⟩ := leaf_eq_ok.mp h
      exact ⟨used, rfl, .leaf hd, trivial⟩
  case mpr =>
    rintro ⟨used, rfl, hd, _⟩
    cases hd
    case leaf d hd =>
      have ha : ahead (used ++ rest) = some .atSign ∨ ∃ w, ahead (used ++ rest) = some (.word w) :=
        ahead_of_spelled hd
      rw [operand_of_not_ahead (by grind) (by grind)]
      exact leaf_eq_ok.mpr ⟨used, d, rfl, hd, rfl⟩
    case not r i e used hd =>
      have h : operand r (used ++ rest) = .ok (e, rest) :=
        (hi r (Nat.lt_succ_self r)).eq_ok.mpr ⟨used, rfl, hd, trivial⟩
      exact operand_not.mpr ⟨r, e, rfl, h, rfl⟩
    case group r i j used hd =>
      have hf : ahead (⟨.closeParen, j⟩ :: rest) ≠ some .and ∧
          ahead (⟨.closeParen, j⟩ :: rest) ≠ some .or := by simp [ahead]
      have h : disjunction (operand r) (used ++ ⟨.closeParen, j⟩ :: rest) =
          .ok (e, ⟨.closeParen, j⟩ :: rest) :=
        (hi r (Nat.lt_succ_self r)).disjunction.eq_ok.mpr ⟨used, rfl, hd, hf⟩
      simpa using operand_group.mpr ⟨r, j, rfl, h⟩

-- What the whole of a token sequence derives is what the parser makes of it.
theorem derives_iff :
    Derives .disjunction room e ts ↔ disjunction (operand room) ts = .ok (e, []) := by
  simp [(operand_recognizes room).disjunction.eq_ok, ahead]

end Expressions

end Parser

namespace Derives

variable {level own : Level} {room : Nat} {e : Expression} {ts : List Located}

theorem ne_nil (h : Derives level room e ts) : ts ≠ [] := by
  induction h
  case leaf h =>
    rintro rfl
    cases h
  case operand hi     => exact hi
  case conjunction hi => exact hi
  all_goals simp

-- More room does no harm.
theorem mono {room' : Nat} (h : Derives level room e ts) (hr : room ≤ room') :
    Derives level room' e ts := by
  induction h generalizing room'
  case leaf h         => exact .leaf h
  case operand hi     => exact .operand (hi hr)
  case and hl hr'     => exact .and (hl hr) (hr' hr)
  case conjunction hi => exact .conjunction (hi hr)
  case or hl hr'      => exact .or (hl hr) (hr' hr)
  case not hi =>
    obtain ⟨room', rfl⟩ := Nat.exists_eq_add_of_lt hr
    exact .not (hi (by omega))
  case group hi =>
    obtain ⟨room', rfl⟩ := Nat.exists_eq_add_of_lt hr
    exact .group (hi (by omega))

-- A token sequence derives one expression at most, however much room there is.
theorem unique {room' : Nat} {e' : Expression} (h : Derives .disjunction room e ts)
    (h' : Derives .disjunction room' e' ts) : e = e' := by
  have hm := Parser.derives_iff.mp (h.mono (Nat.le_max_left room room'))
  have hm' := Parser.derives_iff.mp (h'.mono (Nat.le_max_right room room'))
  cases hm.symm.trans hm'
  rfl

end Derives

namespace Expression

variable {level own : Level} {room : Nat} {e : Expression} {ts : List Located}

theorem ofTokens_eq_ok : ofTokens ts = .ok e ↔ Derives .disjunction maxNesting e ts := by
  have hu : ∀ {t ts}, (Parser.unexpected .operator).run' (t :: ts) ≠ .ok e := nofun
  rw [Parser.derives_iff, ofTokens]
  cases ts
  case nil =>
    refine iff_of_false nofun fun h => ?_
    exact (Parser.derives_iff.mpr h).ne_nil rfl
  case cons =>
    simp only [List.isEmpty_cons, Bool.false_eq_true, if_false, Outcome.bind_eq_ok]
    constructor
    case mp =>
      rintro ⟨⟨e, rest⟩, h, hr⟩
      cases rest
      case nil  => cases hr; exact h
      case cons => exact (hu hr).elim
    case mpr => exact fun h => ⟨(e, []), h, rfl⟩

end Expression
end Interpose.Pointcut
