import Interpose.Pointcut.Matching

namespace Interpose

open Pointcut

namespace Verdict

-- The second verdict is what is left of the first once more is known.
def Approximates (v w : Verdict) : Prop :=
  v = unknown ∨ v = w

theorem ofBool_ne_unknown {b : Bool} : ofBool b ≠ unknown := by
  cases b <;> simp [ofBool]

@[simp]
theorem ofBool_and (a b : Bool) : (ofBool a).and (ofBool b) = ofBool (a && b) := by
  cases a <;> cases b <;> rfl

@[simp]
theorem ofBool_or (a b : Bool) : (ofBool a).or (ofBool b) = ofBool (a || b) := by
  cases a <;> cases b <;> rfl

@[simp]
theorem ofBool_not (a : Bool) : (ofBool a).not = ofBool !a := by
  cases a <;> rfl

theorem or_beq_yes (v w : Verdict) : (v.or w == yes) = (v == yes || w == yes) := by
  cases v <;> cases w <;> rfl

theorem or_bne_no (v w : Verdict) : (v.or w != no) = (v != no || w != no) := by
  cases v <;> cases w <;> rfl

namespace Approximates

variable {v w v' w' : Verdict}

theorem refl (v : Verdict) : v.Approximates v :=
  .inr rfl

-- A conjunction is open only if neither side is refuted, so knowing more never turns it around.
theorem and (h : v.Approximates w) (h' : v'.Approximates w') : (v.and v').Approximates (w.and w') := by
  cases h <;> cases h' <;> subst_vars
  case inl.inl => exact .inl rfl
  case inl.inr => cases w <;> cases w' <;> simp [Approximates, Verdict.and]
  case inr.inl => cases w <;> cases w' <;> simp [Approximates, Verdict.and]
  case inr.inr => exact refl _

theorem or (h : v.Approximates w) (h' : v'.Approximates w') : (v.or v').Approximates (w.or w') := by
  cases h <;> cases h' <;> subst_vars
  case inl.inl => exact .inl rfl
  case inl.inr => cases w <;> cases w' <;> simp [Approximates, Verdict.or]
  case inr.inl => cases w <;> cases w' <;> simp [Approximates, Verdict.or]
  case inr.inr => exact refl _

theorem not (h : v.Approximates w) : v.not.Approximates w.not := by
  cases h <;> subst_vars
  case inl => exact .inl rfl
  case inr => exact refl _

theorem eq_of_ne_unknown (h : v.Approximates w) (hv : v ≠ unknown) : w = v :=
  h.resolve_left hv |>.symm

end Approximates
end Verdict

namespace Pointcut

variable {types : Hierarchy} {j : MethodJoint} {p : Pointcut}

-- A pattern for the caller as a plain condition. Calls from no type only meet the trivial one.
def acceptsCaller (caller : Option String) (pattern : TypePattern) (accepts : String → Bool) : Bool :=
  pattern.isTrivial || caller.any accepts

-- The plain truth of a designator about a method that is called from somewhere.
def Designator.selectsMethod (types : Hierarchy) (caller : Option String) (j : MethodJoint) :
    Designator → Bool
  | execution p => p.accepts types j
  | within p => acceptsCaller caller p (p.accepts types)
  | annotatedWithin p =>
    acceptsCaller caller p fun name => (types.get? name).any (p.acceptsAnnotation ·.annotations)
  | annotatedExecution p => p.acceptsAnnotation j.method.annotations
  | target p => p.accepts types j.declaring.name
  | annotatedTarget p => p.acceptsAnnotation j.declaring.annotations
  | autowire _ | annotatedAutowire _ => false

-- The boolean reading of the execution side, over the truth of the designators.
def holds (truth : Designator → Bool) : Pointcut → Bool
  | leaf _ d => truth d
  | and _ l r => l.holds truth && r.holds truth
  | or _ l r => l.holds truth || r.holds truth
  | not _ p => !p.holds truth
  | divergent e _ => e.holds truth

theorem callerVerdict_ofOption (caller : Option String) (pattern : TypePattern)
    (accepts : String → Bool) :
    callerVerdict (.ofOption caller) pattern accepts =
      .ofBool (acceptsCaller caller pattern accepts) := by
  cases caller <;> cases h : pattern.isTrivial <;>
    simp [callerVerdict, acceptsCaller, Caller.ofOption, h, Verdict.ofBool]

theorem callerVerdict_approximates (c : Caller) (pattern : TypePattern) (accepts : String → Bool) :
    (callerVerdict .unknown pattern accepts).Approximates (callerVerdict c pattern accepts) := by
  cases h : pattern.isTrivial
  case true  => simp [callerVerdict, h, Verdict.Approximates]
  case false => exact .inl <| by simp [callerVerdict, h]

theorem Designator.verdict_ofOption (caller : Option String) (d : Designator) :
    d.verdict types (.ofOption caller) j = .ofBool (d.selectsMethod types caller j) := by
  cases d <;> simp [verdict, selectsMethod, callerVerdict_ofOption, Verdict.ofBool]

theorem Designator.verdict_approximates (c : Caller) (d : Designator) :
    (d.verdict types .unknown j).Approximates (d.verdict types c j) := by
  cases d
  case within          => exact callerVerdict_approximates ..
  case annotatedWithin => exact callerVerdict_approximates ..
  all_goals exact .refl _

-- Once the caller is known, the three-valued evaluation is the boolean reading.
theorem verdict_ofOption (caller : Option String) (p : Pointcut) :
    p.verdict types (.ofOption caller) j =
      .ofBool (p.holds (Designator.selectsMethod types caller j)) := by
  induction p
  case leaf d            => exact d.verdict_ofOption caller
  case and l r hl hr     => simp [verdict, holds, hl, hr]
  case or l r hl hr      => simp [verdict, holds, hl, hr]
  case not hi            => simp [verdict, holds, hi]
  case divergent e _ h _ => simp [verdict, holds, h]

-- Negation turns approximations of truth into approximations of falsity, which is why the
-- induction carries both at once.
theorem verdict_approximates (types : Hierarchy) (j : MethodJoint) (c : Caller) (p : Pointcut) :
    (p.verdict types .unknown j).Approximates (p.verdict types c j) := by
  induction p
  case leaf d            => exact d.verdict_approximates c
  case and hl hr         => exact hl.and hr
  case or hl hr          => exact hl.or hr
  case not hi            => exact hi.not
  case divergent e _ h _ => exact h

theorem selectsMethod_eq (caller : Option String) (p : Pointcut) :
    p.selectsMethod types caller j =
      (p.isExecution && p.holds (Designator.selectsMethod types caller j)) := by
  cases h : p.holds (Designator.selectsMethod types caller j) <;>
    simp [selectsMethod, verdict_ofOption, h, Verdict.ofBool]

theorem maySelectMethod_of_selectsMethod {caller : Option String}
    (h : p.selectsMethod types caller j = true) : p.maySelectMethod types j = true := by
  simp only [selectsMethod, Bool.and_eq_true, beq_iff_eq] at h
  have ⟨he, hy⟩ := h
  simp only [maySelectMethod, he, Bool.true_and, bne_iff_ne]
  intro hn
  have ha := p.verdict_approximates types j (.ofOption caller)
  have hc := ha.eq_of_ne_unknown (by simp [hn])
  simp [hc, hn] at hy

theorem callerVerdict_eq_of_isTrivial {pattern : TypePattern} (h : pattern.isTrivial = true)
    (c : Caller) (accepts : String → Bool) : callerVerdict c pattern accepts = .yes := by
  simp [callerVerdict, h]

-- A pointcut that does not watch the caller has made up its mind before the caller is known.
theorem verdict_eq_of_not_watchesCaller (h : p.watchesCaller = false) (types : Hierarchy)
    (j : MethodJoint) (c : Caller) :
    p.verdict types c j = p.verdict types .unknown j := by
  induction p
  case leaf d =>
    cases d
    case within          =>
      simp only [watchesCaller, Bool.not_eq_false'] at h
      simp [verdict, Designator.verdict, callerVerdict_eq_of_isTrivial h]
    case annotatedWithin =>
      simp only [watchesCaller, Bool.not_eq_false'] at h
      simp [verdict, Designator.verdict, callerVerdict_eq_of_isTrivial h]
    all_goals rfl
  case and hl hr =>
    have ⟨h₁, h₂⟩ := Bool.or_eq_false_iff.mp h
    simp [verdict, hl h₁, hr h₂]
  case or hl hr =>
    have ⟨h₁, h₂⟩ := Bool.or_eq_false_iff.mp h
    simp [verdict, hl h₁, hr h₂]
  case not hi            => simp [verdict, hi h]
  case divergent e _ hi _ => exact hi h

theorem selectsMethod_eq_maySelectMethod (h : p.watchesCaller = false) (caller : Option String) :
    p.selectsMethod types caller j = p.maySelectMethod types j := by
  have hv := verdict_eq_of_not_watchesCaller h types j (.ofOption caller)
  rw [selectsMethod, maySelectMethod, ← hv, verdict_ofOption]
  cases p.holds (Designator.selectsMethod types caller j) <;> simp [Verdict.ofBool]

-- What is settled before the caller is known stays so for every caller, and once the caller is
-- known nothing is left open.
theorem verdict_settled (p : Pointcut) (types : Hierarchy) (j : MethodJoint) :
    (∀ caller, p.verdict types .unknown j = .yes → p.verdict types (.ofOption caller) j = .yes) ∧
    (∀ caller, p.verdict types .unknown j = .no → p.verdict types (.ofOption caller) j = .no) ∧
    (∀ caller, p.verdict types (.ofOption caller) j ≠ .unknown) ∧
    (p.maySelectMethod types j = false → ∀ caller, p.selectsMethod types caller j = false) ∧
    ((∃ caller, p.selectsMethod types caller j = true) → p.maySelectMethod types j = true) := by
  refine ⟨fun c h => ?yes, fun c h => ?no, fun c => ?known, fun h c => ?never, fun ⟨c, h⟩ => ?some⟩
  case yes =>
    have ha := p.verdict_approximates types j (.ofOption c)
    exact h ▸ ha.eq_of_ne_unknown (by simp [h])
  case no =>
    have ha := p.verdict_approximates types j (.ofOption c)
    exact h ▸ ha.eq_of_ne_unknown (by simp [h])
  case known =>
    rw [verdict_ofOption]
    exact Verdict.ofBool_ne_unknown
  case never =>
    rw [Bool.eq_false_iff]
    intro hs
    have := maySelectMethod_of_selectsMethod hs
    simp [h] at this
  case some => exact maySelectMethod_of_selectsMethod h

end Pointcut
end Interpose
