import Interpose.Proofs.Pointcut.Display

namespace Interpose.Pointcut

namespace Expression

variable {domain : Domain} {e b : Expression}

theorem branches_unplaced : e.unplaced.branches = e.branches.map unplaced := by
  induction e
  case or l r _ hl hr => simp [unplaced, branches, hl, hr]
  all_goals rfl

theorem leaves_unplaced : e.unplaced.leaves = e.leaves := by
  induction e
  case leaf            => rfl
  case not hi          => exact hi
  case and l r _ hl hr => simp [unplaced, leaves, hl, hr]
  case or l r _ hl hr  => simp [unplaced, leaves, hl, hr]

theorem mentions_unplaced : e.unplaced.mentions domain = e.mentions domain := by
  rw [mentions, mentions, leaves_unplaced]

theorem isNeutral_unplaced : e.unplaced.isNeutral = e.isNeutral := by
  rw [isNeutral, isNeutral, mentions_unplaced, mentions_unplaced]

theorem mixes_unplaced : e.unplaced.mixes = e.mixes := by
  rw [mixes, mixes, mentions_unplaced, mentions_unplaced]

theorem inDomain_unplaced : e.unplaced.inDomain domain = e.inDomain domain := by
  induction e
  case leaf            => rfl
  case not hi          => exact congrArg (Pointcut.not domain) hi
  case and l r _ hl hr => simp only [unplaced, inDomain, hl, hr]
  case or l r _ hl hr  => simp only [unplaced, inDomain, hl, hr]

theorem expression_inDomain : (e.inDomain domain).expression = e.unplaced := by
  induction e
  case leaf            => rfl
  case not hi          => exact congrArg not hi
  case and l r _ hl hr => simp only [unplaced, inDomain, expression, hl, hr]
  case or l r _ hl hr  => simp only [unplaced, inDomain, expression, hl, hr]

theorem leaves_eq_flatMap : e.leaves = e.branches.flatMap leaves := by
  induction e
  case or l r _ hl hr => simp [leaves, branches, hl, hr]
  all_goals simp [branches]

-- An alternative at the top has no further ones.
theorem branches_of_mem (h : b ∈ e.branches) : b.branches = [b] := by
  induction e
  case or hl hr => exact (List.mem_append.mp h).elim hl hr
  all_goals cases List.mem_singleton.mp h; rfl

end Expression

-- The alternatives that the text of a pointcut shows for those of an expression.
def shown (es : List Expression) : List Expression :=
  alternativesOf .execution es ++ alternativesOf .autowire es

-- Alternatives of both domains occur.
def spans (es : List Expression) : Bool :=
  es.any (·.mentions .execution) && es.any (·.mentions .autowire)

section Alternatives

variable {domain : Domain} {es : List Expression} {p : Pointcut}

theorem alternativesOf_unplaced :
    alternativesOf domain (es.map (·.unplaced)) = (alternativesOf domain es).map (·.unplaced) := by
  simp only [alternativesOf, List.any_map, List.filter_map, Function.comp_def,
    Expression.mentions_unplaced, Expression.isNeutral_unplaced]
  split <;> simp

-- Where the operators stand makes no difference to a side.
theorem side_unplaced : side domain (es.map (·.unplaced)) = side domain es := by
  simp only [side, alternativesOf_unplaced, List.map_map, Function.comp_def,
    Expression.inDomain_unplaced]

theorem branches_foldl (h : ∀ b ∈ es, b.branches = [b]) :
    ((es.map (·.inDomain domain)).foldl (or domain) p).expression.branches =
      p.expression.branches ++ es.map (·.unplaced) := by
  induction es generalizing p
  case nil => simp
  case cons e es hi =>
    obtain ⟨he, hes⟩ := List.forall_mem_cons.mp h
    rw [List.map_cons, List.foldl_cons, hi hes]
    simp [expression, Expression.branches, Expression.expression_inDomain,
      Expression.branches_unplaced, he]

theorem branches_side (h : ∀ b ∈ es, b.branches = [b]) (hs : side domain es = some p) :
    p.expression.branches = (alternativesOf domain es).map (·.unplaced) := by
  have hb : ∀ b ∈ alternativesOf domain es, b.branches = [b] :=
    fun b hb => h b (mem_alternativesOf.mp hb).left.left
  rw [side] at hs
  cases hes : alternativesOf domain es <;> rw [hes] at hs hb <;> cases hs
  case cons e es =>
    obtain ⟨he, hb⟩ := List.forall_mem_cons.mp hb
    rw [branches_foldl hb]
    simp [Expression.expression_inDomain, Expression.branches_unplaced, he]

theorem side_eq_none : side domain es = none ↔ alternativesOf domain es = [] := by
  rw [side]
  cases alternativesOf domain es <;> simp [alternation]

theorem branches_ofSides (h : ∀ b ∈ es, b.branches = [b])
    (hs : ofSides (side .execution es) (side .autowire es) = some p) :
    p.expression.branches = (shown es).map (·.unplaced) := by
  cases he : side .execution es <;> cases hw : side .autowire es <;> rw [he, hw] at hs <;> cases hs
  case none.some => rw [branches_side h hw, shown, side_eq_none.mp he, List.nil_append]
  case some.none => rw [branches_side h he, shown, side_eq_none.mp hw, List.append_nil]
  case some.some =>
    rw [expression, Expression.branches, branches_side h he, branches_side h hw, shown,
      List.map_append]

theorem not_isNeutral_of_mentions {e : Expression} (h : e.mentions domain = true) :
    e.isNeutral = false := by
  cases domain <;> simp [Expression.isNeutral, h]

theorem filter_mentions_filter_isNeutral :
    (es.filter (·.isNeutral)).filter (·.mentions domain) = [] := by
  refine List.filter_eq_nil_iff.mpr fun e he hm => ?_
  simpa [not_isNeutral_of_mentions hm] using (List.mem_filter.mp he).right

theorem filter_mentions_alternativesOf :
    (alternativesOf domain es).filter (·.mentions domain) = es.filter (·.mentions domain) := by
  rw [alternativesOf]
  split
  case isTrue =>
    rw [List.filter_append, filter_mentions_filter_isNeutral, List.append_nil, List.filter_filter]
    simp only [Bool.and_self]
  case isFalse h =>
    exact (List.filter_eq_nil_iff.mpr fun e he hm => h (List.any_eq_true.mpr ⟨e, he, hm⟩)).symm

theorem filter_mentions_alternativesOf_other (h : ∀ e ∈ es, e.mixes = false) :
    (alternativesOf domain es).filter (·.mentions domain.other) = [] :=
  List.filter_eq_nil_iff.mpr fun e he => by simp [not_mentions_of_mem h he]

theorem filter_isNeutral_alternativesOf : (alternativesOf domain es).filter (·.isNeutral) =
    if es.any (·.mentions domain) then es.filter (·.isNeutral) else [] := by
  rw [alternativesOf]
  split
  case isFalse => rfl
  case isTrue  =>
    have hm : (es.filter (·.mentions domain)).filter (·.isNeutral) = [] :=
      List.filter_eq_nil_iff.mpr fun e he => by
        simp [not_isNeutral_of_mentions (List.mem_filter.mp he).right]
    simp [hm]

theorem mem_shown {b : Expression} : b ∈ shown es ↔ b ∈ es ∧
    ∃ domain, (b.mentions domain = true ∨ b.isNeutral = true) ∧
      ∃ a ∈ es, a.mentions domain = true := by
  rw [shown, List.mem_append, mem_alternativesOf, mem_alternativesOf]
  constructor
  case mp =>
    rintro (⟨⟨hb, hm⟩, ha⟩ | ⟨⟨hb, hm⟩, ha⟩)
    exacts [⟨hb, _, hm, ha⟩, ⟨hb, _, hm, ha⟩]
  case mpr =>
    rintro ⟨hb, ⟨⟩, hm, ha⟩
    exacts [.inl ⟨⟨hb, hm⟩, ha⟩, .inr ⟨⟨hb, hm⟩, ha⟩]

-- What is shown are the alternatives of the same domains again.
theorem filter_mentions_shown (h : ∀ e ∈ es, e.mixes = false) :
    (shown es).filter (·.mentions domain) = es.filter (·.mentions domain) := by
  have hx : (alternativesOf domain.other es).filter (·.mentions domain.other.other) = [] :=
    filter_mentions_alternativesOf_other h
  rw [shown, List.filter_append]
  cases domain <;> simp only [Domain.other] at hx
  case execution => rw [filter_mentions_alternativesOf, hx, List.append_nil]
  case autowire  => rw [filter_mentions_alternativesOf, hx, List.nil_append]

-- Alternatives that are of no domain are shown on both sides, and count on both of them when they
-- are read again.
theorem alternativesOf_shown (h : ∀ e ∈ es, e.mixes = false) :
    alternativesOf domain (shown es) =
      alternativesOf domain es ++ if spans es then es.filter (·.isNeutral) else [] := by
  have ha : (shown es).any (·.mentions domain) = es.any (·.mentions domain) := by
    rw [Bool.eq_iff_iff, List.any_eq_true, List.any_eq_true]
    simp only [mem_shown]
    constructor
    case mp  => exact fun ⟨e, ⟨he, _⟩, hm⟩ => ⟨e, he, hm⟩
    case mpr => exact fun ⟨e, he, hm⟩ => ⟨e, ⟨he, domain, .inl hm, e, he, hm⟩, hm⟩
  have hn : (shown es).filter (·.isNeutral) =
      (if es.any (·.mentions .execution) then es.filter (·.isNeutral) else []) ++
        if es.any (·.mentions .autowire) then es.filter (·.isNeutral) else [] := by
    rw [shown, List.filter_append, filter_isNeutral_alternativesOf, filter_isNeutral_alternativesOf]
  rw [alternativesOf, alternativesOf, ha, filter_mentions_shown h, hn, spans]
  cases domain <;> cases es.any (·.mentions .execution) <;> cases es.any (·.mentions .autowire) <;>
    simp

theorem mem_alternativesOf_shown {b : Expression} :
    b ∈ alternativesOf domain (shown es) ↔ b ∈ alternativesOf domain es := by
  simp only [mem_alternativesOf, mem_shown]
  constructor
  case mp  => exact fun ⟨⟨⟨hb, _⟩, hm⟩, a, ⟨ha, _⟩, hd⟩ => ⟨⟨hb, hm⟩, a, ha, hd⟩
  case mpr => exact fun ⟨⟨hb, hm⟩, a, ha, hd⟩ =>
    ⟨⟨⟨hb, domain, hm, a, ha, hd⟩, hm⟩, a, ⟨ha, domain, .inl hd, a, ha, hd⟩, hd⟩

end Alternatives

-- No reading that takes alternatives for those of booleans tells two sides of a domain apart.
def Interchangeable (domain : Domain) (pd pd' : Option Pointcut) : Prop :=
  ∀ reading : Pointcut → Bool, (∀ p q, reading (or domain p q) = (reading p || reading q)) →
    pd.any reading = pd'.any reading

-- Which alternatives there are is all that matters.
theorem interchangeable_shown {domain : Domain} {es : List Expression} :
    Interchangeable domain (side domain (shown es)) (side domain es) := by
  intro reading hr
  rw [side, side, any_alternation hr, any_alternation hr, List.any_map, List.any_map,
    Bool.eq_iff_iff, List.any_eq_true, List.any_eq_true]
  simp only [mem_alternativesOf_shown]

-- Two pointcuts are of the same domains and select the same methods and fields.
structure Alike (p q : Pointcut) : Prop where
  isExecution     : p.isExecution = q.isExecution
  isAutowire      : p.isAutowire = q.isAutowire
  crossesDomains  : p.crossesDomains = q.crossesDomains
  watchesCaller   : p.watchesCaller = q.watchesCaller
  selectsMethod   : ∀ types caller j,
    p.selectsMethod types caller j = q.selectsMethod types caller j
  maySelectMethod : ∀ types j, p.maySelectMethod types j = q.maySelectMethod types j
  selectsField    : ∀ types j, p.selectsField types j = q.selectsField types j

-- What speaks of fields does not speak of callers.
theorem Uniform.not_watchesCaller {p : Pointcut} (h : p.Uniform .autowire) :
    p.watchesCaller = false := by
  induction h
  case leaf d h  => cases d <;> simp_all [Domain.admits, watchesCaller]
  case and hl hr => rw [watchesCaller, hl, hr, Bool.or_false]
  case or hl hr  => rw [watchesCaller, hl, hr, Bool.or_false]
  case not hi    => exact hi

namespace Sided

variable {p p' : Pointcut} {pe pe' pw pw' : Option Pointcut} {types : Hierarchy}

theorem isExecution (h : Sided p pe pw) : p.isExecution = pe.any fun _ => true := by
  have he := h.execution
  have hw := h.autowire
  cases h.sides
  case both      => rfl
  case execution => exact (he p rfl).isExecution
  case autowire  => exact (hw p rfl).isExecution

theorem isAutowire (h : Sided p pe pw) : p.isAutowire = pw.any fun _ => true := by
  have he := h.execution
  have hw := h.autowire
  cases h.sides
  case both      => rfl
  case execution => exact (he p rfl).isAutowire
  case autowire  => exact (hw p rfl).isAutowire

theorem watchesCaller (h : Sided p pe pw) : p.watchesCaller = pe.any (·.watchesCaller) := by
  have hw := h.autowire
  cases h.sides
  case autowire => exact (hw p rfl).not_watchesCaller
  all_goals rfl

-- The verdict on a method is that of the side for methods.
theorem verdict (h : Sided p pe pw) (caller : Caller) (j : MethodJoint)
    (accepts : Verdict → Bool) : (p.isExecution && accepts (p.verdict types caller j)) =
      pe.any fun e => accepts (e.verdict types caller j) := by
  rw [h.isExecution]
  cases h.sides <;> rfl

theorem selectsField (h : Sided p pe pw) (j : FieldJoint) :
    p.selectsField types j = pw.any (·.selectsField types j) :=
  h.sides.selectsField (fun e he => (h.execution e he).isOnly_iff.mpr rfl) j

theorem divergent (h : Sided p pe pw) (hc : p.crossesDomains = true) :
    ∃ e w, pe = some e ∧ pw = some w ∧ .divergent e w = p := by
  have he := h.execution
  have hw := h.autowire
  cases h.sides
  case both e w  => exact ⟨e, w, rfl, rfl, rfl⟩
  case execution => cases hc.symm.trans (he p rfl).not_crossesDomains
  case autowire  => cases hc.symm.trans (hw p rfl).not_crossesDomains

-- All there is to tell of a pointcut are readings of its sides.
theorem alike (h : Sided p pe pw) (h' : Sided p' pe' pw')
    (he : Interchangeable .execution pe pe') (hw : Interchangeable .autowire pw pw') :
    p.Alike p' := by
  have hex : p.isExecution = p'.isExecution := by
    rw [h.isExecution, h'.isExecution]
    exact he _ fun _ _ => rfl
  have haw : p.isAutowire = p'.isAutowire := by
    rw [h.isAutowire, h'.isAutowire]
    exact hw _ fun _ _ => rfl
  refine ⟨hex, haw, ?crossesDomains, ?watchesCaller, fun types caller j => ?selectsMethod,
    fun types j => ?maySelectMethod, fun types j => ?selectsField⟩
  case crossesDomains => rw [crossesDomains_eq, crossesDomains_eq, hex, haw]
  case watchesCaller =>
    rw [h.watchesCaller, h'.watchesCaller]
    exact he _ fun _ _ => rfl
  case selectsMethod =>
    rw [selectsMethod, selectsMethod, h.verdict _ j (· == .yes), h'.verdict _ j (· == .yes)]
    exact he _ fun _ _ => Verdict.or_beq_yes _ _
  case maySelectMethod =>
    rw [maySelectMethod, maySelectMethod, h.verdict _ j (· != .no), h'.verdict _ j (· != .no)]
    exact he _ fun _ _ => Verdict.or_bne_no _ _
  case selectsField =>
    rw [h.selectsField, h'.selectsField]
    exact hw _ (selectsField_reads types j).or

end Sided

section Growth

variable {domain : Domain} {es : List Expression} {p q : Pointcut} {ps qs : List Pointcut}

theorem alternation_append (h : alternation domain ps = some p) :
    alternation domain (ps ++ qs) = some (qs.foldl (or domain) p) := by
  cases ps <;> cases h
  case cons => rw [List.cons_append, alternation, List.foldl_append]

theorem length_or : p.text.length < (or domain p q).text.length := by
  simp only [text, String.length_append]
  have : "(".length = 1 := rfl
  omega

theorem length_foldl (domain : Domain) (h : qs ≠ []) :
    p.text.length < (qs.foldl (or domain) p).text.length := by
  induction qs generalizing p
  case nil => cases h rfl
  case cons q qs hi =>
    have hl : p.text.length < (or domain p q).text.length := length_or
    cases qs
    case nil  => exact hl
    case cons => exact Nat.lt_trans hl (hi (List.cons_ne_nil _ _))

theorem any_side : (side domain es).any (fun _ => true) = es.any (·.mentions domain) := by
  rw [side, any_alternation fun _ _ => rfl, Bool.eq_iff_iff, List.any_map, List.any_eq_true,
    List.any_eq_true]
  simp only [mem_alternativesOf]
  constructor
  case mp  => exact fun ⟨_, ⟨_, ha⟩, _⟩ => ha
  case mpr => exact fun ⟨e, he, hm⟩ => ⟨e, ⟨⟨he, .inl hm⟩, e, he, hm⟩, rfl⟩

theorem isSome_ofSides (pe pw : Option Pointcut) :
    (ofSides pe pw).isSome = (pe.any (fun _ => true) || pw.any fun _ => true) := by
  cases pe <;> cases pw <;> rfl

end Growth

namespace MadeOf

variable {domain : Domain} {es : List Expression} {p p' : Pointcut}

theorem map_unplaced : MadeOf (es.map (·.unplaced)) p ↔ MadeOf es p := by
  constructor
  case mp =>
    intro h
    refine ⟨fun e he => ?_, by simpa only [side_unplaced] using h.sides⟩
    rw [← Expression.mixes_unplaced]
    exact h.unmixed _ (List.mem_map_of_mem he)
  case mpr =>
    refine fun h => ⟨fun e he => ?_, by simpa only [side_unplaced] using h.sides⟩
    obtain ⟨b, hb, rfl⟩ := List.mem_map.mp he
    exact Expression.mixes_unplaced.trans (h.unmixed b hb)

theorem crossesDomains (h : MadeOf es p) : p.crossesDomains = spans es := by
  rw [crossesDomains_eq, h.sided.isExecution, h.sided.isAutowire, any_side, any_side, spans]

-- What is shown makes a pointcut again.
theorem exists_shown (h : MadeOf es p) : ∃ p', MadeOf (shown es) p' := by
  have hs : (ofSides (side .execution (shown es)) (side .autowire (shown es))).isSome = true := by
    rw [isSome_ofSides, interchangeable_shown _ fun _ _ => rfl,
      interchangeable_shown _ fun _ _ => rfl, ← isSome_ofSides, h.sides, Option.isSome_some]
  obtain ⟨p', hp'⟩ := Option.isSome_iff_exists.mp hs
  exact ⟨p', fun e he => h.unmixed e (mem_shown.mp he).left, hp'⟩

theorem alike (h : MadeOf es p) (h' : MadeOf (shown es) p') : p'.Alike p :=
  h'.sided.alike h.sided interchangeable_shown interchangeable_shown

-- A divergent pointcut takes the alternatives of no domain for both sides once more.
theorem side_shown (h : MadeOf es p) : side domain (shown es) = alternation domain
    ((alternativesOf domain es ++ if p.crossesDomains then es.filter (·.isNeutral) else []).map
      (·.inDomain domain)) := by
  rw [side, alternativesOf_shown h.unmixed, h.crossesDomains]

theorem eq_of_shown (h : MadeOf es p) (h' : MadeOf (shown es) p')
    (hn : ¬(p.crossesDomains = true ∧ ∃ b ∈ es, b.isNeutral = true)) : p' = p := by
  have hs : ∀ domain, side domain (shown es) = side domain es := by
    intro domain
    rw [h.side_shown]
    split
    case isFalse => rw [List.append_nil, side]
    case isTrue hc =>
      have hf : es.filter (·.isNeutral) = [] :=
        List.filter_eq_nil_iff.mpr fun b hb hm => hn ⟨hc, b, hb, hm⟩
      rw [hf, List.append_nil, side]
  have hp := h'.sides
  rw [hs, hs, h.sides] at hp
  exact (Option.some.inj hp).symm

theorem length_lt_of_shown (h : MadeOf es p) (h' : MadeOf (shown es) p')
    (hc : p.crossesDomains = true) (hn : ∃ b ∈ es, b.isNeutral = true) :
    p.text.length < p'.text.length := by
  have hf : ∀ domain, (es.filter (·.isNeutral)).map (·.inDomain domain) ≠ [] := by
    intro domain hf
    obtain ⟨b, hb, hm⟩ := hn
    exact List.filter_eq_nil_iff.mp (List.map_eq_nil_iff.mp hf) b hb hm
  obtain ⟨e, w, he, hw, rfl⟩ := h.sided.divergent hc
  have hp := h'.sides
  simp only [h.side_shown, hc, if_true, List.map_append] at hp
  rw [alternation_append he, alternation_append hw] at hp
  cases hp
  have hle := length_foldl .execution (p := e) (hf .execution)
  have hlw := length_foldl .autowire (p := w) (hf .autowire)
  simp only [text, String.length_append]
  omega

end MadeOf

end Interpose.Pointcut
