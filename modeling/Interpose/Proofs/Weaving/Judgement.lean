import Interpose.Proofs.Weaving.Merging

namespace Interpose

open Outcome Classification

variable {α β : Type}

-- What a step comes to, whatever is in the cache: its results and its errors.
def Reading.Comes (x : Reading α) (result : α → Prop) (error : WeavingError → Prop) : Prop :=
  ∀ c : Pointcut.Cache, c.Faithful → (∀ a, (x c).1 = .ok a ↔ result a) ∧
    (∀ e, (x c).1 = .error e ↔ error e) ∧ (x c).2.Faithful

namespace Reading.Comes

variable {x : Reading α} {f : α → Reading β} {R R' : α → Prop} {E E' : WeavingError → Prop}
variable {S : α → β → Prop} {F : α → WeavingError → Prop}

theorem congr (h : x.Comes R E) (hR : ∀ a, R a ↔ R' a) (hE : ∀ e, E e ↔ E' e) : x.Comes R' E' :=
  fun c hc =>
    have ⟨hr, he, hc'⟩ := h c hc
    ⟨fun a => (hr a).trans (hR a), fun e => (he e).trans (hE e), hc'⟩

theorem lift (r : Except WeavingError α) :
    Comes (liftM r : Reading α) (r = .ok ·) (r = .error ·) := by
  cases r <;> exact fun _ hc => ⟨fun _ => Iff.rfl, fun _ => Iff.rfl, hc⟩

theorem pure (a : α) : Comes (Pure.pure a : Reading α) (a = ·) (fun _ => False) :=
  fun _ hc => ⟨fun _ => ⟨Except.ok.inj, congrArg _⟩, fun _ => ⟨nofun, nofun⟩, hc⟩

theorem throw (e : WeavingError) :
    Comes (MonadExcept.throw e : Reading α) (fun _ => False) (e = ·) :=
  fun _ hc => ⟨fun _ => ⟨nofun, nofun⟩, fun _ => ⟨Except.error.inj, congrArg _⟩, hc⟩

-- A step goes on with its result and ends with its error.
theorem bind (h : x.Comes R E) (hf : ∀ a, R a → (f a).Comes (S a) (F a)) :
    Comes (x >>= f) (fun b => ∃ a, R a ∧ S a b) (fun e => E e ∨ ∃ a, R a ∧ F a e) := by
  intro c hc
  have ⟨hr, he, ht⟩ := h c hc
  cases hx : x c
  case mk r t =>
    rw [hx] at hr he ht
    cases r
    case error e =>
      have hn : ∀ a, ¬R a := fun a ha => by cases (hr a).mpr ha
      rw [Step.bind_of_error hx]
      refine ⟨fun b => ⟨nofun, fun ⟨a, ha, _⟩ => (hn a ha).elim⟩, fun e' => ?_, ht⟩
      refine Iff.trans ?_ (or_iff_left fun ⟨a, ha, _⟩ => hn a ha).symm
      rw [← he e', Except.error.injEq, Except.error.injEq]
    case ok a =>
      have ha := (hr a).mp rfl
      have hu : ∀ a', R a' → a = a' := fun a' h => Except.ok.inj ((hr a').mpr h)
      have hn : ∀ e, ¬E e := fun e h => by cases (he e).mpr h
      have ⟨hs, hg, hc'⟩ := hf a ha t ht
      rw [Step.bind_of_ok hx]
      refine ⟨fun b => (hs b).trans ?_, fun e => (hg e).trans ?_, hc'⟩
      · exact ⟨fun hb => ⟨a, ha, hb⟩, fun ⟨a', h', hb⟩ => hu a' h' ▸ hb⟩
      · refine Iff.trans ?_ (or_iff_right (hn e)).symm
        exact ⟨fun hb => ⟨a, ha, hb⟩, fun ⟨a', h', hb⟩ => hu a' h' ▸ hb⟩

-- The first element that has no result ends it.
theorem mapM (as : List α) (hf : ∀ a ∈ as, (f a).Comes (S a) (F a)) :
    Comes (as.mapM f) (List.Forall₂ S as) (AtFirst (fun a => ∃ b, S a b) F as) := by
  induction as
  case nil =>
    rw [List.mapM_nil]
    refine (pure []).congr (fun bs => ?_) fun e => (iff_false_intro not_atFirst_nil).symm
    rw [List.forall₂_nil_left_iff, eq_comm]
  case cons a as hi =>
    have ⟨ha, has⟩ := List.forall_mem_cons.mp hf
    rw [List.mapM_cons]
    refine (ha.bind fun b hb => (hi has).bind fun bs hbs => pure (b :: bs)).congr
      (fun bs => ?_) fun e => ?_
    · constructor
      case mp  => exact fun ⟨b, hb, bs', hbs, h⟩ => h ▸ .cons hb hbs
      case mpr =>
        intro h
        cases h
        case cons b bs hb hbs => exact ⟨b, hb, bs, hbs, rfl⟩
    · rw [atFirst_cons]
      refine or_congr_right ?_
      constructor
      case mp =>
        intro ⟨b, hb, h⟩
        exact ⟨⟨b, hb⟩, h.resolve_right fun ⟨_, _, h⟩ => h⟩
      case mpr => exact fun ⟨⟨b, hb⟩, h⟩ => ⟨b, hb, .inl h⟩

end Reading.Comes

-- What is wrong with an annotation that gives no pointcut.
inductive Annotation.Fails (name : String) (note : Annotation) : WeavingError → Prop
  | empty (h : note.value? = none) : note.Fails name (.illegal name .noExpression)
  | unreadable {expression : String} {e : Pointcut.ReadError} (h : note.value? = some expression)
    (hp : Pointcut.parse expression = .error e) : note.Fails name (.invalid name e)

-- What is said of a parameter for the join points of a domain where others come in.
def Pointcut.Domain.mismatch : Pointcut.Domain → AdviceFault
  | .execution => .methodsOnly
  | .autowire => .fieldsOnly

namespace Method

-- A method of the shape of an advice.
structure Shaped (m : Method) : Prop where
  ordinary : m.kind = .method
  bound    : m.modifiers.has .static = false
  concrete : m.modifiers.has .abstract = false
  result   : m.returnType = valueTypeName
  param    : ∃ p, m.params = [p] ∧ namesJoinPoint p = true

-- What is wrong with the shape of a method, as far as the rest of it is not wrong before.
inductive Misshapen (m : Method) : AdviceFault → Prop
  | constructor (h : m.kind ≠ .method) : m.Misshapen .constructor
  | static (hk : m.kind = .method) (h : m.modifiers.has .static = true) : m.Misshapen .static
  | abstract (hk : m.kind = .method) (hs : m.modifiers.has .static = false)
    (h : m.modifiers.has .abstract = true) : m.Misshapen .abstract
  | result (hk : m.kind = .method) (hs : m.modifiers.has .static = false)
    (ha : m.modifiers.has .abstract = false) (h : m.returnType ≠ valueTypeName) :
    m.Misshapen (.result m.returnType)
  | params (hk : m.kind = .method) (hs : m.modifiers.has .static = false)
    (ha : m.modifiers.has .abstract = false) (hr : m.returnType = valueTypeName)
    (h : ∀ p, m.params = [p] → namesJoinPoint p = false) : m.Misshapen (.params m.params)

-- Why the annotations of a method make no pointcut: there are none, one of them gives none, or
-- those that they give do not go together.
inductive Misdeclares (name : String) (m : Method) : WeavingError → Prop
  | unannotated (h : m.annotationsNamed aroundAnnotation = []) :
    m.Misdeclares name (.illegal name .noExpression)
  | expression {e : WeavingError} (h : AtFirst (fun note => ∃ p, note.Gives p)
      (fun note => note.Fails name) (m.annotationsNamed aroundAnnotation) e) : m.Misdeclares name e
  | clash {ps : List Pointcut} {c : Pointcut.Crosscut}
    (hg : List.Forall₂ Annotation.Gives (m.annotationsNamed aroundAnnotation) ps)
    (hc : Pointcut.Clash ps c) : m.Misdeclares name (.invalid name (.crosscut c))

-- The parameter of a method goes with a pointcut if it takes the join points of each domain of it.
def Suits (m : Method) (p : Pointcut) : Prop :=
  ∀ domain : Pointcut.Domain, m.params = [domain.joinPointTypeName] →
    p.belongsTo domain.other = false

variable {m : Method} {f : AdviceFault} {p : Pointcut} {name : String}

theorem shaped_or_misshapen (m : Method) : m.Shaped ∨ ∃ f, m.Misshapen f := by
  by_cases hk : m.kind = .method
  case neg => exact .inr ⟨_, .constructor hk⟩
  cases hs : m.modifiers.has .static
  case true => exact .inr ⟨_, .static hk hs⟩
  cases ha : m.modifiers.has .abstract
  case true => exact .inr ⟨_, .abstract hk hs ha⟩
  by_cases hr : m.returnType = valueTypeName
  case neg => exact .inr ⟨_, .result hk hs ha hr⟩
  by_cases hp : ∃ p, m.params = [p] ∧ namesJoinPoint p = true
  case pos => exact .inl ⟨hk, hs, ha, hr, hp⟩
  case neg =>
    refine .inr ⟨_, .params hk hs ha hr fun p h => ?_⟩
    exact Bool.eq_false_iff.mpr fun hn => hp ⟨p, h, hn⟩

theorem Shaped.shapeFault? (h : m.Shaped) : m.shapeFault? = none := by
  have ⟨_, hp, hn⟩ := h.param
  simp [Method.shapeFault?, isConstructor, h.ordinary, h.bound, h.concrete, h.result, hp, hn]

theorem Misshapen.shapeFault? (h : m.Misshapen f) : m.shapeFault? = some f := by
  cases h
  case constructor h       => simp [Method.shapeFault?, isConstructor, h]
  case static hk h         => simp [Method.shapeFault?, isConstructor, hk, h]
  case abstract hk hs h    => simp [Method.shapeFault?, isConstructor, hk, hs, h]
  case result hk hs ha h   => simp [Method.shapeFault?, isConstructor, hk, hs, ha, h]
  case params hk hs ha hr h =>
    rcases hp : m.params with _ | ⟨p, _ | ⟨q, ps⟩⟩
    case cons.nil => simp [Method.shapeFault?, isConstructor, hk, hs, ha, hr, hp, h p hp]
    all_goals simp [Method.shapeFault?, isConstructor, hk, hs, ha, hr, hp]

theorem shapeFault?_eq_none : m.shapeFault? = none ↔ m.Shaped := by
  refine ⟨fun h => m.shaped_or_misshapen.resolve_right fun ⟨_, hf⟩ => ?_, Shaped.shapeFault?⟩
  cases h.symm.trans hf.shapeFault?

theorem shapeFault?_eq_some : m.shapeFault? = some f ↔ m.Misshapen f := by
  refine ⟨fun h => ?_, Misshapen.shapeFault?⟩
  rcases m.shaped_or_misshapen with hs | ⟨_, hf⟩
  case inl => cases h.symm.trans hs.shapeFault?
  case inr =>
    cases h.symm.trans hf.shapeFault?
    exact hf

theorem domainFault?_eq_some : m.domainFault? p = some f ↔
    ∃ domain : Pointcut.Domain, m.params.head? = some domain.joinPointTypeName ∧
      p.belongsTo domain.other = true ∧ f = domain.mismatch := by
  constructor
  case mp =>
    intro h
    rw [domainFault?] at h
    split at h
    case isTrue hp =>
      cases h
      simp only [Bool.and_eq_true, beq_iff_eq] at hp
      exact ⟨.execution, hp.left, hp.right, rfl⟩
    case isFalse =>
      split at h
      case isFalse   => cases h
      case isTrue hp =>
        cases h
        simp only [Bool.and_eq_true, beq_iff_eq] at hp
        exact ⟨.autowire, hp.left, hp.right, rfl⟩
  case mpr =>
    rintro ⟨domain, hd, hb, rfl⟩
    cases domain
    case execution =>
      have hw : p.isAutowire = true := hb
      simp [domainFault?, hd, hw, Pointcut.Domain.joinPointTypeName, Pointcut.Domain.mismatch]
    case autowire =>
      have he : p.isExecution = true := hb
      simp [domainFault?, hd, he, Pointcut.Domain.joinPointTypeName, Pointcut.Domain.mismatch,
        proceedingJoinPointTypeName, autowireJoinPointTypeName]

-- The parameter of a method of the right shape is its only one.
theorem Shaped.head?_params (hm : m.Shaped) {x : String} :
    m.params.head? = some x ↔ m.params = [x] := by
  have ⟨y, hy, _⟩ := hm.param
  rw [hy, List.head?_cons, Option.some.injEq, List.cons.injEq, and_iff_left rfl]

theorem domainFault?_eq_none (hm : m.Shaped) : m.domainFault? p = none ↔ m.Suits p := by
  rw [Option.eq_none_iff_forall_not_mem]
  simp only [Option.mem_def, domainFault?_eq_some, hm.head?_params, not_exists, not_and, Suits]
  constructor
  case mp  => exact fun h domain hd => Bool.eq_false_iff.mpr fun hb => h _ domain hd hb rfl
  case mpr => exact fun h _ domain hd hb _ => Bool.eq_false_iff.mp (h domain hd) hb

end Method

-- The privilege that is written for a method: the first one of its own, or else of its type.
def TypeDescription.privilegeText? (t : TypeDescription) (m : Method) : Option String :=
  (m.annotationsNamed privilegeAnnotation ++ t.annotationsNamed privilegeAnnotation).head?.map
    fun note => note.value?.getD ""

section Judgements

variable {σ : Type} {catalog : Catalog σ} {providers : Providers σ} {types : Hierarchy}
variable {t : TypeDescription} {m : Method} {a : Advice σ} {p : Pointcut} {name : String}

-- The first check that a declaration does not pass, and the error that says so.
inductive Fault (catalog : Catalog σ) (providers : Providers σ) (t : TypeDescription)
    (m : Method) : WeavingError → Prop
  | shape {f : AdviceFault} (h : m.Misshapen f) :
    Fault catalog providers t m (.illegal (t.name ++ "." ++ m.name) f)
  | pointcut {e : WeavingError} (hs : m.Shaped) (h : m.Misdeclares (t.name ++ "." ++ m.name) e) :
    Fault catalog providers t m e
  | domain {p : Pointcut} {domain : Pointcut.Domain} (hs : m.Shaped) (hp : m.Declares p)
    (hd : m.params = [domain.joinPointTypeName]) (h : p.belongsTo domain.other = true) :
    Fault catalog providers t m (.illegal (t.name ++ "." ++ m.name) domain.mismatch)
  | body {p : Pointcut} (hs : m.Shaped) (hp : m.Declares p) (hd : m.Suits p)
    (h : catalog.body? t.name m.name = none) :
    Fault catalog providers t m (.illegal (t.name ++ "." ++ m.name) .noBody)
  | provider {p : Pointcut} {body : AdviceBody σ} {e : ContainerError} (hs : m.Shaped)
    (hp : m.Declares p) (hd : m.Suits p) (hb : catalog.body? t.name m.name = some body)
    (h : providers t.name = .error e) : Fault catalog providers t m (.container e)
  | privilege {p : Pointcut} {body : AdviceBody σ} {provider : Provider σ} {text : String}
    (hs : m.Shaped) (hp : m.Declares p) (hd : m.Suits p)
    (hb : catalog.body? t.name m.name = some body) (hv : providers t.name = .ok provider)
    (ht : t.privilegeText? m = some text) (h : Text.integer? 32 (Text.trim text) = none) :
    Fault catalog providers t m (.illegal (t.name ++ "." ++ m.name) (.privilege text))

-- A declaration that passes every check.
structure Lawful (catalog : Catalog σ) (providers : Providers σ) (t : TypeDescription)
    (m : Method) : Prop where
  shape     : m.Shaped
  annotated : m.annotationsNamed aroundAnnotation ≠ []
  readable  : ∀ note ∈ m.annotationsNamed aroundAnnotation, ∃ p, note.Gives p
  together  : (m.annotationsNamed aroundAnnotation).length = 1 ∨ ∃ domain : Pointcut.Domain,
    ∀ note ∈ m.annotationsNamed aroundAnnotation, ∀ p, note.Gives p → p.Only domain
  parameter : ∀ note ∈ m.annotationsNamed aroundAnnotation, ∀ p, note.Gives p → m.Suits p
  body      : ∃ body, catalog.body? t.name m.name = some body
  provider  : ∃ provider, providers t.name = .ok provider
  privilege : ∀ text, t.privilegeText? m = some text →
    ∃ level, Text.integer? 32 (Text.trim text) = some level

namespace Classification

section Reading

variable {expression : String} {c c' : Pointcut.Cache} {n : Nat} {e : Pointcut.ReadError}

theorem readPointcut_of_ok (h : c.read expression = .ok ((n, p), c')) :
    readPointcut name expression c = (.ok p, c') := by
  have hg : (get : Reading Pointcut.Cache) c = (.ok c, c) := rfl
  refine (Step.bind_of_ok hg).trans ?_
  simp only [h]
  rfl

theorem readPointcut_of_error (h : c.read expression = .error e) :
    readPointcut name expression c = (.error (.invalid name e), c) := by
  have hg : (get : Reading Pointcut.Cache) c = (.ok c, c) := rfl
  refine (Step.bind_of_ok hg).trans ?_
  simp only [h]
  rfl

end Reading

theorem readPointcut_comes (name expression : String) :
    (readPointcut name expression).Comes (Pointcut.parse expression = .ok ·)
      fun e => ∃ e', Pointcut.parse expression = .error e' ∧ e = .invalid name e' := by
  intro c hc
  cases hr : c.read expression
  case error e =>
    have hp := hc.read_eq_error.mp hr
    simp [readPointcut_of_error hr, hp, hc, eq_comm]
  case ok r =>
    have ⟨hp, hc'⟩ := hc.read hr
    simp [readPointcut_of_ok hr, hp, hc']

theorem annotatedPointcut_comes (name : String) (note : Annotation) :
    (annotatedPointcut name note).Comes note.Gives (note.Fails name) := by
  unfold annotatedPointcut
  cases hv : note.value?
  case none =>
    refine (Reading.Comes.throw _).congr (fun p => ⟨nofun, fun ⟨_, h, _⟩ => ?_⟩) fun e => ?_
    · cases hv.symm.trans h
    · constructor
      case mp  => exact fun h => h ▸ .empty hv
      case mpr =>
        intro h
        cases h
        case empty          => rfl
        case unreadable h _ => cases hv.symm.trans h
  case some expression =>
    refine (readPointcut_comes name expression).congr (fun p => ?_) fun e => ?_
    · exact ⟨fun h => ⟨expression, hv, h⟩, fun ⟨_, h, hp⟩ => Option.some.inj (hv.symm.trans h) ▸ hp⟩
    · constructor
      case mp  => exact fun ⟨_, hp, he⟩ => he ▸ .unreadable hv hp
      case mpr =>
        intro h
        cases h
        case empty h         => cases hv.symm.trans h
        case unreadable h hp => cases hv.symm.trans h; exact ⟨_, hp, rfl⟩

theorem pointcutOf_comes (name : String) (m : Method) :
    (pointcutOf name m).Comes m.Declares (m.Misdeclares name) := by
  have hn : ∀ note ∈ m.annotationsNamed aroundAnnotation,
      (annotatedPointcut name note).Comes note.Gives (note.Fails name) :=
    fun note _ => annotatedPointcut_comes name note
  refine ((Reading.Comes.mapM _ hn).bind (S := fun ps p => ∃ first rest, ps = first :: rest ∧
      rest.foldlM Pointcut.merge first = .ok p)
    (F := fun ps e => ps = [] ∧ e = .illegal name .noExpression ∨
      ∃ c, Pointcut.Clash ps c ∧ e = .invalid name (.crosscut c)) fun ps _ => ?joined).congr
    (fun p => ?_) fun e => ?_
  case joined =>
    rcases ps with _ | ⟨first, rest⟩
    case nil =>
      refine (Reading.Comes.throw _).congr (fun p => ⟨nofun, fun ⟨_, _, h, _⟩ => ?_⟩) fun e => ?_
      · cases h
      · refine ⟨fun h => .inl ⟨rfl, h.symm⟩, fun h => h.elim (·.right.symm) fun ⟨_, h, _⟩ => ?_⟩
        cases h
    case cons =>
      have hc : ∀ c, Pointcut.Clash (first :: rest) c ↔
          rest.foldlM Pointcut.merge first = .error c :=
        fun _ => Pointcut.foldlM_merge_eq_error.symm
      dsimp only
      cases hm : rest.foldlM Pointcut.merge first
      case error c => exact (Reading.Comes.throw _).congr (by simp [hm]) (by simp [hc, hm, eq_comm])
      case ok q    => exact (Reading.Comes.pure _).congr (by simp [hm]) (by simp [hc, hm])
  · exact ⟨fun ⟨_, hg, first, rest, hp, hm⟩ => ⟨first, rest, hp ▸ hg, hm⟩,
      fun ⟨first, rest, hg, hm⟩ => ⟨_, hg, first, rest, rfl, hm⟩⟩
  · constructor
    case mp =>
      intro h
      rcases h with h | ⟨ps, hg, ⟨hp, he⟩ | ⟨c, hc, he⟩⟩
      case inl         => exact .expression h
      case inr.inl     => exact he ▸ .unannotated (List.forall₂_nil_right_iff.mp (hp ▸ hg))
      case inr.inr     => exact he ▸ .clash hg hc
    case mpr =>
      intro h
      cases h
      case expression h  => exact .inl h
      case unannotated h => exact .inr ⟨[], h ▸ .nil, .inl ⟨rfl, rfl⟩⟩
      case clash hg hc   => exact .inr ⟨_, hg, .inr ⟨_, hc, rfl⟩⟩

theorem refuse_comes (fault : Option AdviceFault) (name : String) :
    (refuse fault name).Comes (fun _ => fault = none)
      fun e => ∃ f, fault = some f ∧ e = .illegal name f := by
  cases fault
  case none   => exact (Reading.Comes.pure _).congr (by simp) (by simp)
  case some f => exact (Reading.Comes.throw _).congr (by simp) (by simp [eq_comm])

theorem bodyOf_iff {aspect method : String} :
    (∀ body, bodyOf catalog aspect method = .ok body ↔ catalog.body? aspect method = some body) ∧
      ∀ e, bodyOf catalog aspect method = .error e ↔ catalog.body? aspect method = none ∧
        e = .illegal (aspect ++ "." ++ method) .noBody := by
  rw [bodyOf]
  cases catalog.body? aspect method <;> simp [eq_comm]

theorem mapError_iff {ε : Type} {x : Except ε α} {f : ε → WeavingError} :
    (∀ a, x.mapError f = .ok a ↔ x = .ok a) ∧
      ∀ e, x.mapError f = .error e ↔ ∃ e', x = .error e' ∧ e = f e' := by
  cases x <;> simp [Except.mapError, eq_comm]

theorem advicePrivilege_iff (hm : t.method? m.name = some m) :
    (∀ level, t.advicePrivilege m.name = .ok level ↔
      (t.privilegeText? m = none → level = lowestPrivilege) ∧
      ∀ text, t.privilegeText? m = some text →
        Text.integer? 32 (Text.trim text) = some level) ∧
    ∀ e, t.advicePrivilege m.name = .error e ↔ ∃ text, t.privilegeText? m = some text ∧
      Text.integer? 32 (Text.trim text) = none ∧
      e = .illegal (t.name ++ "." ++ m.name) (.privilege text) := by
  have hn : t.privilegeNote? m.name =
      (m.annotationsNamed privilegeAnnotation ++ t.annotationsNamed privilegeAnnotation).head? := by
    rw [TypeDescription.privilegeNote?, hm, List.head?_append, Option.bind_some]
  rw [TypeDescription.advicePrivilege, TypeDescription.privilegeText?, hn]
  cases (m.annotationsNamed privilegeAnnotation ++ t.annotationsNamed privilegeAnnotation).head?
  case none => simp [eq_comm]
  case some note =>
    dsimp only
    cases hl : Text.integer? 32 (Text.trim (note.value?.getD ""))
    case none   => simp [hl, eq_comm]
    case some n => simp [hl]

-- Each check of a declaration comes in its turn.
theorem adviceOf_comes (hm : t.method? m.name = some m) :
    (adviceOf catalog providers t m).Comes (fun a => a.DeclaredBy catalog providers t m)
      (Fault catalog providers t m) := by
  unfold adviceOf
  refine ((refuse_comes _ _).bind fun _ hs =>
    (pointcutOf_comes _ m).bind fun p hp =>
    (refuse_comes _ _).bind fun _ hd =>
    (Reading.Comes.lift (bodyOf catalog t.name m.name)).bind fun body hb =>
    (Reading.Comes.lift ((providers t.name).mapError .container)).bind fun provider hv =>
    (Reading.Comes.lift (t.advicePrivilege m.name)).bind fun level hl =>
    Reading.Comes.pure _).congr (fun a => ?result) fun e => ?error
  case result =>
    constructor
    case mp =>
      intro ⟨_, hs, p, hp, _, hd, body, hb, provider, hv, level, hl, ha⟩
      exact ha ▸ ⟨rfl, rfl, hs, hp, hd, (bodyOf_iff.left _).mp hb, (mapError_iff.left _).mp hv, hl⟩
    case mpr =>
      intro h
      refine ⟨(), h.shape, a.pointcut, h.pointcut, (), h.domain, a.body,
        (bodyOf_iff.left _).mpr h.body, a.provider, (mapError_iff.left _).mpr h.provider,
        a.privilege, h.privilege, ?_⟩
      exact h.aspect ▸ h.method ▸ rfl
  case error =>
    simp only [Method.shapeFault?_eq_none, Method.shapeFault?_eq_some, bodyOf_iff.left,
      bodyOf_iff.right, mapError_iff.left, mapError_iff.right, (advicePrivilege_iff hm).right,
      Method.domainFault?_eq_some]
    constructor
    case mp =>
      rintro (⟨f, hf, rfl⟩ | ⟨_, hs, h⟩)
      case inl => exact .shape hf
      rcases h with h | ⟨p, hp, h⟩
      case inl => exact .pointcut hs h
      rcases h with ⟨f, ⟨domain, hd, hb, rfl⟩, rfl⟩ | ⟨_, hd, h⟩
      case inl => exact .domain hs hp (hs.head?_params.mp hd) hb
      have hd : m.Suits p := (Method.domainFault?_eq_none hs).mp hd
      rcases h with ⟨hb, rfl⟩ | ⟨body, hb, h⟩
      case inl => exact .body hs hp hd hb
      rcases h with ⟨e', hv, rfl⟩ | ⟨provider, hv, h⟩
      case inl => exact .provider hs hp hd hb hv
      rcases h with ⟨text, ht, hl, rfl⟩ | ⟨_, _, h⟩
      case inl => exact .privilege hs hp hd hb hv ht hl
      case inr => exact h.elim
    case mpr =>
      intro h
      cases h
      case shape hf => exact .inl ⟨_, hf, rfl⟩
      case pointcut hs h => exact .inr ⟨(), hs, .inl h⟩
      case domain hs hp hd hb =>
        exact .inr ⟨(), hs, .inr ⟨_, hp, .inl ⟨_, ⟨_, hs.head?_params.mpr hd, hb, rfl⟩, rfl⟩⟩⟩
      case body hs hp hd hb =>
        have hd := (Method.domainFault?_eq_none hs).mpr hd
        exact .inr ⟨(), hs, .inr ⟨_, hp, .inr ⟨(), hd, .inl ⟨hb, rfl⟩⟩⟩⟩
      case provider hs hp hd hb hv =>
        have hd := (Method.domainFault?_eq_none hs).mpr hd
        exact .inr ⟨(), hs, .inr ⟨_, hp, .inr ⟨(), hd, .inr ⟨_, hb, .inl ⟨_, hv, rfl⟩⟩⟩⟩⟩
      case privilege hs hp hd hb hv ht hl =>
        have hd := (Method.domainFault?_eq_none hs).mpr hd
        exact .inr ⟨(), hs, .inr ⟨_, hp, .inr ⟨(), hd, .inr ⟨_, hb, .inr ⟨_, hv,
          .inl ⟨_, ht, hl, rfl⟩⟩⟩⟩⟩⟩

theorem mem_declarations {e : TypeDescription × Method} (he : e ∈ declarations types) :
    e.1 ∈ types.types ∧ e.2 ∈ e.1.methods := by
  have ⟨t, ht, he⟩ := List.mem_flatMap.mp he
  have ⟨m, hm, he⟩ := List.mem_map.mp he
  subst he
  exact ⟨List.mem_of_mem_filter ht, List.mem_of_mem_filter hm⟩

-- Classification goes from declaration to declaration, up to the first fault.
theorem advices_comes (hm : ∀ e ∈ declarations types, e.1.method? e.2.name = some e.2) :
    (advices catalog providers types).Comes
      (List.Forall₂ (fun e a => a.DeclaredBy catalog providers e.1 e.2) (declarations types))
      (AtFirst (fun e => ∃ a : Advice σ, a.DeclaredBy catalog providers e.1 e.2)
        (fun e => Fault catalog providers e.1 e.2) (declarations types)) :=
  Reading.Comes.mapM _ fun e he => adviceOf_comes (hm e he)

end Classification

-- The pointcut of a method matches what one of its expressions does.
theorem Method.Declares.reading {reading : Pointcut → Bool} (h : m.Declares p)
    (hr : Pointcut.Alternating reading) : reading p = true ↔
      ∃ note ∈ m.annotationsNamed aroundAnnotation, ∃ q, note.Gives q ∧ reading q = true := by
  have ⟨first, rest, hg, hm⟩ := h
  rw [hr.foldlM_merge hm, List.any_eq_true]
  constructor
  case mp =>
    intro ⟨q, hq, ht⟩
    have ⟨note, hn, hg⟩ := exists_of_mem hg.flip q hq
    exact ⟨note, hn, q, hg, ht⟩
  case mpr =>
    intro ⟨note, hn, q, hq, ht⟩
    have ⟨q', hm, hg⟩ := exists_of_mem hg note hn
    exact ⟨q', hm, hq.eq hg ▸ ht⟩

theorem Method.Declares.suits_iff (h : m.Declares p) : m.Suits p ↔
    ∀ note ∈ m.annotationsNamed aroundAnnotation, ∀ q, note.Gives q → m.Suits q := by
  have hr := fun domain => h.reading (Pointcut.belongsTo_alternating domain)
  constructor
  case mp =>
    intro hs note hn q hq domain hd
    exact Bool.eq_false_iff.mpr fun hb => by
      cases (hs domain hd).symm.trans ((hr domain.other).mpr ⟨note, hn, q, hq, hb⟩)
  case mpr =>
    intro hs domain hd
    refine Bool.eq_false_iff.mpr fun hb => ?_
    have ⟨note, hn, q, hq, hb⟩ := (hr domain.other).mp hb
    cases (hs note hn q hq domain hd).symm.trans hb

theorem Method.exists_declares : (∃ p, m.Declares p) ↔
    m.annotationsNamed aroundAnnotation ≠ [] ∧
    (∀ note ∈ m.annotationsNamed aroundAnnotation, ∃ p, note.Gives p) ∧
    ((m.annotationsNamed aroundAnnotation).length = 1 ∨ ∃ domain : Pointcut.Domain,
      ∀ note ∈ m.annotationsNamed aroundAnnotation, ∀ p, note.Gives p → p.Only domain) := by
  constructor
  case mp =>
    intro ⟨p, first, rest, hg, hm⟩
    refine ⟨fun hn => ?_, exists_forall₂.mp ⟨_, hg⟩, ?_⟩
    · rw [hn] at hg
      cases hg
    · refine (Pointcut.foldlM_merge_iff.mp ⟨p, hm⟩).imp (fun hr => ?_) fun ⟨domain, ho⟩ => ?_
      · rw [hg.length_eq, hr, List.length_singleton]
      · refine ⟨domain, fun note hn q hq => ?_⟩
        have ⟨q', hq', hg⟩ := exists_of_mem hg note hn
        exact hq.eq hg ▸ ho q' hq'
  case mpr =>
    intro ⟨hn, hr, ht⟩
    have ⟨ps, hg⟩ := exists_forall₂.mpr hr
    rcases ps with _ | ⟨first, rest⟩
    case nil => exact (hn (List.forall₂_nil_right_iff.mp hg)).elim
    case cons =>
      have ⟨p, hp⟩ : ∃ p, rest.foldlM Pointcut.merge first = .ok p := by
        refine Pointcut.foldlM_merge_iff.mpr (ht.imp (fun hl => ?_) fun ⟨domain, ho⟩ => ?_)
        · exact List.length_eq_zero_iff.mp (Nat.succ.inj (hg.length_eq.symm.trans hl))
        · refine ⟨domain, fun q hq => ?_⟩
          have ⟨note, hn, hg⟩ := exists_of_mem hg.flip q hq
          exact ho note hn q hg
      exact ⟨p, first, rest, hg, hp⟩

theorem lawful_iff (hm : t.method? m.name = some m) : Lawful catalog providers t m ↔
    ∃ a : Advice σ, a.DeclaredBy catalog providers t m := by
  constructor
  case mp =>
    intro h
    have ⟨p, hp⟩ := Method.exists_declares.mpr ⟨h.annotated, h.readable, h.together⟩
    have hd := (Method.domainFault?_eq_none h.shape).mpr (hp.suits_iff.mpr h.parameter)
    have ⟨body, hb⟩ := h.body
    have ⟨provider, hv⟩ := h.provider
    have ⟨level, hl⟩ : ∃ level, t.advicePrivilege m.name = .ok level := by
      simp only [(advicePrivilege_iff hm).left]
      cases ht : t.privilegeText? m
      case none => exact ⟨_, fun _ => rfl, nofun⟩
      case some text =>
        have ⟨level, hl⟩ := h.privilege text ht
        exact ⟨level, nofun, fun _ he => Option.some.inj he ▸ hl⟩
    exact ⟨⟨t.name, m.name, p, provider, body, level⟩, rfl, rfl, h.shape.shapeFault?, hp, hd, hb,
      hv, hl⟩
  case mpr =>
    intro ⟨a, h⟩
    have hs := Method.shapeFault?_eq_none.mp h.shape
    have ⟨hn, hr, ht⟩ := Method.exists_declares.mp ⟨_, h.pointcut⟩
    have hp := h.pointcut.suits_iff.mp ((Method.domainFault?_eq_none hs).mp h.domain)
    have ⟨_, hl⟩ := ((advicePrivilege_iff hm).left _).mp h.privilege
    exact ⟨hs, hn, hr, ht, hp, ⟨_, h.body⟩, ⟨_, h.provider⟩, fun text ht => ⟨_, hl text ht⟩⟩

-- What an advice is for its declaration.
structure Describes (catalog : Catalog σ) (providers : Providers σ) (t : TypeDescription)
    (m : Method) (a : Advice σ) : Prop where
  aspect    : a.aspect = t.name
  method    : a.method = m.name
  weaving   : ∀ types j, a.pointcut.maySelectMethod types j = true ↔
    ∃ note ∈ m.annotationsNamed aroundAnnotation, ∃ p, note.Gives p ∧
      p.maySelectMethod types j = true
  calls     : ∀ types caller j, a.pointcut.selectsMethod types caller j = true ↔
    ∃ note ∈ m.annotationsNamed aroundAnnotation, ∃ p, note.Gives p ∧
      p.selectsMethod types caller j = true
  fields    : ∀ types f, a.pointcut.selectsField types f = true ↔
    ∃ note ∈ m.annotationsNamed aroundAnnotation, ∃ p, note.Gives p ∧
      p.selectsField types f = true
  body      : catalog.body? t.name m.name = some a.body
  provider  : providers t.name = .ok a.provider
  privilege : ∀ text, t.privilegeText? m = some text →
    Text.integer? 32 (Text.trim text) = some a.privilege
  lowest    : t.privilegeText? m = none → a.privilege = 0x7fffffff

theorem Advice.DeclaredBy.describes (hm : t.method? m.name = some m)
    (h : a.DeclaredBy catalog providers t m) : Describes catalog providers t m a where
  aspect              := h.aspect
  method              := h.method
  weaving types j     := h.pointcut.reading (Pointcut.maySelectMethod_alternating types j)
  calls types caller j :=
    h.pointcut.reading (Pointcut.selectsMethod_alternating types caller j)
  fields types f      := h.pointcut.reading (Pointcut.selectsField_alternating types f)
  body                := h.body
  provider            := h.provider
  privilege           := (((advicePrivilege_iff hm).left _).mp h.privilege).right
  lowest              := (((advicePrivilege_iff hm).left _).mp h.privilege).left

namespace Classification

-- What the classification of types ends with, given a cache.
def outcome (catalog : Catalog σ) (providers : Providers σ) (types : Hierarchy)
    (c : Pointcut.Cache) : Except WeavingError (List (Advice σ)) :=
  ((advices catalog providers types).run c).1

-- Whatever was read before, classification succeeds if every advice method of an aspect is lawful,
-- and then there is an advice for each of them, in their order. Otherwise the first one that is not
-- is at fault, with the first check that it does not pass.
theorem classification_exact (hm : ∀ t ∈ types.types, (t.methods.map (·.name)).Nodup)
    (uses : List Pointcut.Cache.Use) :
    ((∃ as, outcome catalog providers types (.run .empty uses) = .ok as) ↔
      ∀ e ∈ declarations types, Lawful catalog providers e.1 e.2) ∧
    (∀ as, outcome catalog providers types (.run .empty uses) = .ok as →
      List.Forall₂ (fun e a => Describes catalog providers e.1 e.2 a) (declarations types) as) ∧
    ∀ err, outcome catalog providers types (.run .empty uses) = .error err ↔
      AtFirst (fun e => Lawful catalog providers e.1 e.2)
        (fun e => Fault catalog providers e.1 e.2) (declarations types) err := by
  have hd : ∀ e ∈ declarations types, e.1.method? e.2.name = some e.2 := by
    intro e he
    have ⟨ht, hmem⟩ := mem_declarations he
    exact Keyed.find?_eq_some (hm e.1 ht) hmem
  have hl : ∀ e ∈ declarations types, (∃ a : Advice σ, a.DeclaredBy catalog providers e.1 e.2) ↔
      Lawful catalog providers e.1 e.2 := fun e he => (lawful_iff (hd e he)).symm
  have hx : (advices catalog providers types).Comes _ _ := advices_comes hd
  have ⟨hr, he, _⟩ := hx _ (Pointcut.Cache.empty_regular.run uses).faithful
  refine ⟨?_, fun as h => ?_, fun err => (he err).trans (atFirst_congr hl)⟩
  · exact (exists_congr hr).trans <| exists_forall₂.trans <| forall₂_congr hl
  · have hf := (List.forall₂_and_left _ _).mpr ⟨hd, (hr as).mp h⟩
    exact hf.imp fun _ _ ha => ha.right.describes ha.left

end Classification
end Judgements

-- An aspect with one advice method.
def audit (m : Method) : TypeDescription :=
  ((TypeDescription.plain "shop.Audit").annotate ⟨ aspectAnnotation, []⟩).addMethod m

def watching : Method := (Method.advice "watch").around "execution(* sell(..))"

def auditCode : Catalog Unit :=
  Catalog.empty.insert "shop.Audit" [("watch", fun _ jp => jp.proceed)]

def auditProviders : Providers Unit := fun typeName => .ok ⟨typeName, .result .unit⟩

namespace Classification

-- A method that returns nothing is no advice, even if all the rest of it is right.
theorem classification_exact_audit :
    (∃ a, outcome auditCode auditProviders (.ofList [audit watching])
        (.run .empty [.read "autowire(*)"]) = .ok [a] ∧
      a.name = "shop.Audit.watch" ∧ a.privilege = lowestPrivilege) ∧
    outcome auditCode auditProviders
        (.ofList [audit { watching with returnType := unitTypeName }]) (.run .empty []) =
      .error (.illegal "shop.Audit.watch" (.result unitTypeName)) := by
  have hm : ∀ m, ∀ t ∈ (Hierarchy.ofList [audit m]).types, (t.methods.map (·.name)).Nodup := by
    intro m t ht
    cases List.mem_singleton.mp ht
    exact List.nodup_singleton _
  have hw := fun m => @classification_exact Unit auditCode auditProviders _ (hm m)
  have ⟨_, hd, _⟩ := hw watching [.read "autowire(*)"]
  have ⟨as, hok⟩ : ∃ as, outcome auditCode auditProviders (.ofList [audit watching])
      (.run .empty [.read "autowire(*)"]) = .ok as :=
    Outcome.isOk_iff.mp (by decide +kernel)
  have ⟨_, _, hfault⟩ := hw { watching with returnType := unitTypeName } []
  refine ⟨?watched, (hfault _).mpr ⟨[], _, [], rfl, nofun, .shape (.result rfl rfl rfl ?returns)⟩⟩
  case watched =>
    have hf : List.Forall₂ (fun e a => Describes auditCode auditProviders e.1 e.2 a)
      [(audit watching, watching)] as := hd as hok
    rcases as with _ | ⟨a, _ | _⟩
    case cons.nil =>
      have ⟨ha, _⟩ := List.forall₂_cons.mp hf
      refine ⟨a, hok, ?_, ha.lowest rfl⟩
      rw [Advice.name, ha.aspect, ha.method]
      rfl
    case nil => cases hf
    case cons.cons => cases (List.forall₂_cons.mp hf).right
  case returns => decide

end Classification
end Interpose
