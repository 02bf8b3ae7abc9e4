import Interpose.Proofs.Container.Code
import Interpose.Proofs.Weaving.FieldNesting

namespace Interpose

variable {σ α β γ δ : Type}

theorem Act.apply_continued (f : γ → δ) {r : Except Halt α × Session σ} {stop : Session σ → γ}
    {next : Except Failure α → Session σ → γ} :
    f (continued r stop next) = continued r (fun s => f (stop s)) fun a s => f (next a s) := by
  obtain ⟨(_ | _) | _, _⟩ := r <;> rfl

theorem Act.continued_of {P : γ → Prop} {r : Except Halt α × Session σ} {stop : Session σ → γ}
    {next : Except Failure α → Session σ → γ} (hs : ∀ s, P (stop s)) (hn : ∀ a s, P (next a s)) :
    P (continued r stop next) := by
  obtain ⟨(_ | _) | _, _⟩ := r
  case error.failed    => exact hn ..
  case error.exhausted => exact hs _
  case ok              => exact hn ..

theorem Act.continued_congr {P : γ → Prop} {r : Except Halt α × Session σ}
    {stop : Session σ → γ} {next next' : Except Failure α → Session σ → γ}
    (hn : ∀ a s, P (next a s) → next' a s = next a s) (h : P (continued r stop next)) :
    continued r stop next' = continued r stop next := by
  obtain ⟨(_ | _) | _, _⟩ := r
  case error.failed    => exact hn _ _ h
  case error.exhausted => rfl
  case ok              => exact hn _ _ h

-- A request of an advice at a field, in a session.
inductive Turn (σ : Type) where
  -- The advice proceeded: whether the inner part was run, the answer, unless there was none because
  -- the depth of calls was used up, and the session that was left.
  | proceeded (s : Session σ) (ran : Bool) (answer : Option (Except Failure Value))
    (left : Session σ)
  -- It asked whether a proceed has succeeded.
  | inquired (s : Session σ) (answer : Bool)

namespace Turn

-- The value that was given.
def value? : Turn σ → Option Value
  | proceeded _ _ (some (.ok v)) _ => some v
  | _ => none

@[simp]
theorem value?_inquired (s : Session σ) (answer : Bool) : (inquired s answer).value? = none :=
  rfl

-- The session in which the inner part was run.
def run? : Turn σ → Option (Session σ)
  | proceeded s true _ _ => some s
  | _ => none

theorem filterMap_run?_of_ran {s left : Session σ} {answer : Option (Except Failure Value)}
    {turns : List (Turn σ)} : (proceeded s true answer left :: turns).filterMap run? =
      s :: turns.filterMap run? :=
  rfl

end Turn

-- How code ended, and its turns.
abbrev Attended (σ α : Type) := (Except Halt α × Session σ) × List (Turn σ)

namespace Attended

def stopped (s : Session σ) : Attended σ α := ((.error .exhausted, s), [])

def after (t : Turn σ) (x : Attended σ α) : Attended σ α := (x.1, t :: x.2)

end Attended

namespace AutowireRequest

-- Takes a turn and goes on.
def attended (inner : Act σ Value) : (r : AutowireRequest) →
    (Requests.autowire.Reply r → Option Value → Session σ → Attended σ α) →
    Option Value → Session σ → Attended σ α
  | .proceed, go, some v, s =>
    .after (.proceeded s false (some (.ok v)) s) (go (.ok v) (some v) s)
  | .proceed, go, none, s =>
    Act.continued (inner s) (fun t => .after (.proceeded s true none t) (.stopped t)) fun r t =>
      .after (.proceeded s true (some r) t) (go r r.toOption t)
  | .resolved, go, kept, s => .after (.inquired s kept.isSome) (go kept.isSome kept s)

end AutowireRequest

namespace Behaviour

variable (services : Services σ) (inner : Act σ Value)

-- Runs code around an inner part, of which a value may be kept, and takes down the turns.
def attended : Behaviour σ .autowire α → Option Value → Session σ → Attended σ α
  | result a, _, s => ((.ok a, s), [])
  | fail f, _, s => ((.error (.failed f), s), [])
  | read next, kept, s => (next s.user).attended kept s
  | write u next, kept, s => next.attended kept { s with user := u }
  | get typeName next, kept, s =>
    Act.continued (services.get typeName s) .stopped fun r t => (next r).attended kept t
  | invoke h caller method args next, kept, s =>
    Act.continued (services.invoke h caller method args s) .stopped fun r t =>
      (next r).attended kept t
  | ask r next, kept, s =>
    AutowireRequest.attended inner r (fun a kept t => (next a).attended kept t) kept s

theorem fst_attended (b : Behaviour σ .autowire α) (kept : Option Value) (s : Session σ) :
    (b.attended services inner kept s).1 =
      b.run services (AutowireChain.reply inner) kept s := by
  induction b generalizing kept s
  case result      => rfl
  case fail        => rfl
  case read hi     => exact hi _ kept s
  case write u _ hi => exact hi kept { s with user := u }
  case get typeName next hi =>
    refine Eq.trans ?_ (Act.attempt_bind ..).symm
    rw [attended, Act.apply_continued Prod.fst]
    simp only [hi]
    rfl
  case invoke h caller method args next hi =>
    refine Eq.trans ?_ (Act.attempt_bind ..).symm
    rw [attended, Act.apply_continued Prod.fst]
    simp only [hi]
    rfl
  case ask r next hi =>
    cases r
    case resolved => exact hi _ kept s
    case proceed =>
      cases kept
      case some v => exact hi (.ok v) (some v) s
      case none =>
        have hp := congrFun (resume_proceed services inner next) s
        refine Eq.trans ?_ (hp.trans (Act.attempt_bind ..)).symm
        refine (Act.apply_continued Prod.fst).trans ?_
        exact congrArg (Act.continued (inner s) _) <|
          funext fun r => funext fun t => hi r r.toOption t

end Behaviour

namespace Turn

-- What may happen at a turn from which code goes on, if a value is kept or none is.
inductive Due (inner : Act σ Value) : Option Value → Turn σ → Prop
  | fetched {s s' : Session σ} {v : Value} (h : inner s = (.ok v, s')) :
    Due inner none (.proceeded s true (some (.ok v)) s')
  | failed {s s' : Session σ} {f : Failure} (h : inner s = (.error (.failed f), s')) :
    Due inner none (.proceeded s true (some (.error f)) s')
  | again (s : Session σ) (v : Value) : Due inner (some v) (.proceeded s false (some (.ok v)) s)
  | inquired (s : Session σ) (kept : Option Value) : Due inner kept (.inquired s kept.isSome)

-- The turns of code that ends so, from one in which a value may be kept. The first value that is
-- given is kept; if the depth of calls is used up, this is the end.
inductive Course (inner : Act σ Value) : Option Value → Except Halt α → List (Turn σ) → Prop
  | done (kept : Option Value) (r : Except Halt α) : Course inner kept r []
  | cut {s s' : Session σ} (h : inner s = (.error .exhausted, s')) :
    Course inner none (.error .exhausted) [.proceeded s true none s']
  | turn {kept : Option Value} {r : Except Halt α} {t : Turn σ} {turns : List (Turn σ)}
    (due : Due inner kept t) (rest : Course inner (kept.or t.value?) r turns) :
    Course inner kept r (t :: turns)

end Turn

namespace Behaviour

variable (services : Services σ) {inner inner' : Act σ Value}

theorem attended_course (b : Behaviour σ .autowire α) (kept : Option Value) (s : Session σ) :
    Turn.Course inner kept (b.attended services inner kept s).1.1
      (b.attended services inner kept s).2 := by
  induction b generalizing kept s
  case result      => exact .done kept _
  case fail        => exact .done kept _
  case read hi     => exact hi _ kept s
  case write u _ hi => exact hi kept { s with user := u }
  case get hi =>
    exact Act.continued_of (P := fun x : Attended σ α => Turn.Course inner kept x.1.1 x.2)
      (fun _ => .done kept _) fun r t => hi r kept t
  case invoke hi =>
    exact Act.continued_of (P := fun x : Attended σ α => Turn.Course inner kept x.1.1 x.2)
      (fun _ => .done kept _) fun r t => hi r kept t
  case ask r next hi =>
    cases r
    case resolved =>
      refine .turn (.inquired s kept) ?_
      exact Option.or_none.symm ▸ hi kept.isSome kept s
    case proceed =>
      cases kept
      case some v => exact .turn (.again s v) (hi (.ok v) (some v) s)
      case none =>
        change Turn.Course inner none (AutowireRequest.attended inner .proceed _ none s).1.1
          (AutowireRequest.attended inner .proceed _ none s).2
        rw [AutowireRequest.attended]
        rcases h : inner s with ⟨(f | _) | v, t⟩
        case error.failed    => exact .turn (.failed h) (hi (.error f) none t)
        case error.exhausted => exact .cut h
        case ok              => exact .turn (.fetched h) (hi (.ok v) (some v) t)

-- The inner part is run nowhere else: if it came to something else elsewhere, nothing would change.
theorem attended_congr (b : Behaviour σ .autowire α) (kept : Option Value) (s : Session σ)
    (h : ∀ t ∈ (b.attended services inner kept s).2.filterMap Turn.run?, inner' t = inner t) :
    b.attended services inner' kept s = b.attended services inner kept s := by
  let P (x : Attended σ α) : Prop := ∀ t ∈ x.2.filterMap Turn.run?, inner' t = inner t
  induction b generalizing kept s
  case result      => rfl
  case fail        => rfl
  case read hi     => exact hi _ kept s h
  case write u _ hi => exact hi kept { s with user := u } h
  case get hi      => exact Act.continued_congr (P := P) (fun r t => hi r kept t) h
  case invoke hi   => exact Act.continued_congr (P := P) (fun r t => hi r kept t) h
  case ask r next hi =>
    cases r
    case resolved => exact congrArg (Attended.after _) (hi kept.isSome kept s h)
    case proceed =>
      cases kept
      case some v => exact congrArg (Attended.after _) (hi (.ok v) (some v) s h)
      case none =>
        have hs : inner' s = inner s := h s <|
          Act.continued_of (P := fun x : Attended σ α => s ∈ x.2.filterMap Turn.run?)
            (fun _ => .head _) fun _ _ => .head _
        change AutowireRequest.attended inner' .proceed _ none s =
          AutowireRequest.attended inner .proceed _ none s
        rw [AutowireRequest.attended, AutowireRequest.attended, hs]
        refine Act.continued_congr (P := P) (fun r t hp => ?_) h
        exact congrArg (Attended.after _) (hi r r.toOption t fun t' ht' => hp t' (.tail _ ht'))

end Behaviour

namespace Turn

variable {inner : Act σ Value} {kept : Option Value} {r : Except Halt α} {t : Turn σ}
variable {turns before : List (Turn σ)} {v : Value}

namespace Course

theorem tail (h : Course inner kept r (t :: turns)) :
    Course inner (kept.or t.value?) r turns := by
  cases h
  case cut         => exact .done _ _
  case turn _ rest => exact rest

-- The value that is kept at a turn is the first one that was given before.
theorem behind (h : Course inner kept r (before ++ turns)) :
    Course inner (kept.or (before.findSome? value?)) r turns := by
  induction before generalizing kept
  case nil => exact Option.or_none.symm ▸ h
  case cons t before hi =>
    have hb := hi h.tail
    rw [Option.or_assoc] at hb
    rw [List.findSome?_cons]
    cases hv : t.value? <;> rw [hv] at hb <;> exact hb

theorem kept_of_given (h : Course inner kept r (t :: turns)) (hv : t.value? = some v) :
    Course inner (some v) r turns := by
  cases h
  case cut           => cases hv
  case turn due rest =>
    rw [hv] at rest
    cases due
    case fetched  => exact rest
    case again    => cases hv; exact rest
    case failed   => cases hv
    case inquired => cases hv

-- Behind a turn at which a value was given, this value is kept.
theorem behind_given (h : Course inner kept r (before ++ turns)) (ht : t ∈ before)
    (hv : t.value? = some v) : Course inner (some v) r turns := by
  have ⟨front, back, hs⟩ := List.append_of_mem ht
  rw [hs, List.append_assoc] at h
  exact (h.behind.kept_of_given hv).behind

end Course

-- The value that the turns have given so far, if they have given one.
def Given (before : List (Turn σ)) (v : Value) : Prop := ∃ t ∈ before, t.value? = some v

-- What the answer to a proceed is, given how the inner part ended that was run for it. There is
-- none if the depth of calls is used up.
def answer : Except Halt Value → Option (Except Failure Value)
  | .ok v => some (.ok v)
  | .error (.failed f) => some (.error f)
  | .error .exhausted => none

-- The inner part is run by each proceed until it succeeds, and by none from then on: they are given
-- the same value again.
structure Memoized (inner : Act σ Value) (turns : List (Turn σ)) : Prop where
  once     : (turns.countP fun t => t.run?.isSome && t.value?.isSome) ≤ 1
  runs     : ∀ before s ran given left after,
    turns = before ++ .proceeded s ran given left :: after → (∀ v, ¬Given before v) →
      ran = true ∧ given = answer (inner s).1 ∧ left = (inner s).2
  repeats  : ∀ before s ran given left after,
    turns = before ++ .proceeded s ran given left :: after → ∀ v, Given before v →
      ran = false ∧ given = some (.ok v) ∧ left = s
  resolved : ∀ before s given after, turns = before ++ .inquired s given :: after →
    (given = true ↔ ∃ v, Given before v)
  retries  : ∀ before s ran f left between s' ran' given left' after,
    turns = before ++ .proceeded s ran (some (.error f)) left ::
      (between ++ .proceeded s' ran' given left' :: after) →
    (∀ t ∈ between, ∃ s given, t = .inquired s given) →
      ran = true ∧ (inner s).1 = .error (.failed f) ∧ ran' = true

theorem Course.once (h : Course inner kept r turns) :
    (turns.countP fun t => t.run?.isSome && t.value?.isSome) ≤ if kept.isSome then 0 else 1 := by
  induction h
  case done => exact Nat.zero_le _
  case cut  => exact Nat.zero_le _
  case turn due _ hi =>
    cases due <;> simp [run?, value?] at hi ⊢ <;> omega

-- What is counted in runs of the inner part, at most one in each of them and none in one that
-- fails, is at most one in all, and none if the code itself fails and has not been given a value.
theorem Course.countP_le {g : Session σ → List (Session σ)} {p : Session σ → Bool}
    (h : Course inner kept r turns)
    (hn : ∀ t ∈ turns.filterMap run?,
      (g t).countP p ≤ 1 ∧ ∀ f, (inner t).1 = .error (.failed f) → (g t).countP p = 0) :
    ((turns.filterMap run?).flatMap g).countP p ≤ (if kept.isSome then 0 else 1) ∧
      ∀ f, r = .error (.failed f) → (∀ t ∈ turns, t.value? = none) →
        ((turns.filterMap run?).flatMap g).countP p = 0 := by
  induction h
  case done => exact ⟨Nat.zero_le _, fun _ _ _ => rfl⟩
  case cut =>
    rw [filterMap_run?_of_ran, List.filterMap_nil, List.flatMap_singleton]
    exact ⟨(hn _ (.head _)).left, nofun⟩
  case turn due _ hi =>
    cases due
    case fetched =>
      have hle := (hi fun t ht => hn t (.tail _ ht)).left
      rw [filterMap_run?_of_ran, List.flatMap_cons, List.countP_append]
      refine ⟨Nat.add_le_add (hn _ (.head _)).left hle, fun _ _ hv => ?_⟩
      cases hv _ (.head _)
    case failed h _ =>
      obtain ⟨hle, hzero⟩ := hi fun t ht => hn t (.tail _ ht)
      have hs := (hn _ (.head _)).right _ (congrArg Prod.fst h)
      rw [filterMap_run?_of_ran, List.flatMap_cons, List.countP_append, hs, Nat.zero_add]
      exact ⟨hle, fun f hr hv => hzero f hr fun t ht => hv t (.tail _ ht)⟩
    case again =>
      rw [List.filterMap_cons_none rfl]
      exact ⟨(hi hn).left, fun _ _ hv => by cases hv _ (.head _)⟩
    case inquired =>
      obtain ⟨hle, hzero⟩ := hi hn
      rw [value?_inquired, Option.or_none] at hle
      rw [List.filterMap_cons_none rfl]
      exact ⟨hle, fun f hr hv => hzero f hr fun t ht => hv t (.tail _ ht)⟩

theorem answer_eq_error {o : Except Halt Value} {f : Failure} (h : answer o = some (.error f)) :
    o = .error (.failed f) := by
  rcases o with (_ | _) | _ <;> cases h
  rfl

section History

variable {s left : Session σ} {ran : Bool} {given : Option (Except Failure Value)}
variable {after : List (Turn σ)}

theorem Course.runs (h : Course inner none r (before ++ .proceeded s ran given left :: after))
    (hn : ∀ v, ¬Given before v) : ran = true ∧ given = answer (inner s).1 ∧ left = (inner s).2 := by
  have hb : before.findSome? value? = none :=
    List.findSome?_eq_none_iff.mpr fun t ht => Option.eq_none_iff_forall_ne_some.mpr
      fun v hv => hn v ⟨t, ht, hv⟩
  have hk := h.behind
  clear h
  rw [hb] at hk
  cases hk
  case cut h      => exact ⟨rfl, by rw [h]; rfl, by rw [h]⟩
  case turn due _ =>
    cases due
    case fetched h => exact ⟨rfl, by rw [h]; rfl, by rw [h]⟩
    case failed h  => exact ⟨rfl, by rw [h]; rfl, by rw [h]⟩

theorem Course.repeats (h : Course inner none r (before ++ .proceeded s ran given left :: after))
    (hv : Given before v) : ran = false ∧ given = some (.ok v) ∧ left = s := by
  have ⟨t, ht, hv⟩ := hv
  have hk := h.behind_given ht hv
  cases hk
  case turn due _ => cases due; exact ⟨rfl, rfl, rfl⟩

theorem Course.resolved {answer : Bool}
    (h : Course inner none r (before ++ .inquired s answer :: after)) :
    answer = true ↔ ∃ v, Given before v := by
  have hk := h.behind
  rw [Option.none_or] at hk
  have hg : answer = (before.findSome? value?).isSome := by
    generalize before.findSome? value? = kept at hk
    cases hk
    case turn due _ => cases due; rfl
  rw [hg, List.findSome?_isSome_iff]
  simp only [Option.isSome_iff_exists, Given]
  exact ⟨fun ⟨t, ht, v, hv⟩ => ⟨v, t, ht, hv⟩, fun ⟨v, t, ht, hv⟩ => ⟨t, ht, v, hv⟩⟩

end History

theorem Course.memoized (h : Course inner none r turns) : Memoized inner turns := by
  constructor
  case once     => exact h.once
  case runs     => exact fun _ _ _ _ _ _ hs => (hs ▸ h).runs
  case repeats  => exact fun _ _ _ _ _ _ hs _ => (hs ▸ h).repeats
  case resolved => exact fun _ _ _ _ hs => (hs ▸ h).resolved
  case retries =>
    intro before s ran f left between s' ran' given left' after hs hb
    subst hs
    have hn : ∀ v, ¬Given before v := fun v hv => by cases (h.repeats hv).right.left
    have ⟨hr, ha, _⟩ := h.runs hn
    have hl : before ++ .proceeded s ran (some (.error f)) left ::
        (between ++ .proceeded s' ran' given left' :: after) =
          (before ++ .proceeded s ran (some (.error f)) left :: between) ++
            .proceeded s' ran' given left' :: after := by
      rw [List.append_assoc, List.cons_append]
    have hn' : ∀ v, ¬Given (before ++ .proceeded s ran (some (.error f)) left :: between) v := by
      intro v hv
      have ⟨t, ht, hv⟩ := hv
      rcases List.mem_append.mp ht with ht | ht
      case inl => exact hn v ⟨t, ht, hv⟩
      case inr =>
        cases ht
        case head    => cases hv
        case tail ht =>
          have ⟨_, _, he⟩ := hb t ht
          subst he
          cases hv
    exact ⟨hr, answer_eq_error ha.symm, ((hl ▸ h).runs hn').left⟩

end Turn

variable (services : Services σ) (j : FieldJoint) (a : Advice σ) {original original' : Act σ Value}
variable {as : List (Advice σ)} {s : Session σ}

-- Runs an advice around an inner part and takes down the turns.
def Advice.attended (inner : Act σ Value) (s : Session σ) : Attended σ Value :=
  match a.provider.supply.runPlain services s with
  | (.ok aspect, t) => (a.body aspect (.autowire j)).attended services inner none t
  | (.error halt, t) => ((.error halt, t), [])

-- The sessions in which an advice had the inner part run.
def Advice.fetches (inner : Act σ Value) (s : Session σ) : List (Session σ) :=
  (a.attended services j inner s).2.filterMap Turn.run?

namespace Advice

variable {inner inner' : Act σ Value}

theorem fst_attended (inner : Act σ Value) (s : Session σ) :
    (a.attended services j inner s).1 = a.aroundField services j inner s := by
  change _ = (a.provider.supply.runPlain services >>= fun aspect =>
    (a.body aspect (.autowire j)).fetched services inner none) s
  rw [attended]
  rcases h : a.provider.supply.runPlain services s with ⟨_ | aspect, t⟩
  case error => exact (Step.bind_of_error h).symm
  case ok =>
    rw [Step.bind_of_ok h]
    exact Behaviour.fst_attended ..

theorem attended_course (inner : Act σ Value) (s : Session σ) :
    Turn.Course inner none (a.attended services j inner s).1.1
      (a.attended services j inner s).2 := by
  rw [attended]
  rcases a.provider.supply.runPlain services s with ⟨_ | aspect, t⟩
  case error => exact .done ..
  case ok    => exact Behaviour.attended_course ..

theorem attended_congr (h : ∀ t ∈ a.fetches services j inner s, inner' t = inner t) :
    a.attended services j inner' s = a.attended services j inner s := by
  revert h
  rw [fetches, attended, attended]
  rcases a.provider.supply.runPlain services s with ⟨_ | aspect, t⟩
  case error => exact fun _ => rfl
  case ok    => exact fun h => Behaviour.attended_congr services _ none _ h

end Advice

-- The sessions in which the original is found along a chain of advices.
def finds (original : Act σ Value) : List (Advice σ) → Session σ → List (Session σ)
  | [], s => [s]
  | a :: as, s => (a.fetches services j (nestField services j original as) s).flatMap
    (finds original as)

-- No advice along the chain fails with a value in its hands.
def Steady (original : Act σ Value) : List (Advice σ) → Session σ → Prop
  | [], _ => True
  | a :: as, s =>
    (∀ f, (a.aroundField services j (nestField services j original as) s).1 = .error (.failed f) →
      ∀ t ∈ (a.attended services j (nestField services j original as) s).2, t.value? = none) ∧
    ∀ t ∈ a.fetches services j (nestField services j original as) s, Steady original as t

-- The original is found nowhere else.
theorem nestField_congr (h : ∀ t ∈ finds services j original as s, original' t = original t) :
    nestField services j original' as s = nestField services j original as s := by
  induction as generalizing s
  case nil => exact h s List.mem_cons_self
  case cons a as hi =>
    change a.aroundField services j (nestField services j original' as) s =
      a.aroundField services j (nestField services j original as) s
    rw [← Advice.fst_attended, ← Advice.fst_attended]
    refine congrArg Prod.fst (a.attended_congr services j fun t ht => hi fun t' ht' => h t' ?_)
    exact List.mem_flatMap.mpr ⟨t, ht, ht'⟩

theorem countP_finds (h : Steady services j original as s) :
    (finds services j original as s).countP (fun t => (original t).1.isOk) ≤ 1 ∧
      ∀ f, (nestField services j original as s).1 = .error (.failed f) →
        (finds services j original as s).countP (fun t => (original t).1.isOk) = 0 := by
  induction as generalizing s
  case nil =>
    rw [finds, List.countP_singleton]
    refine ⟨by split <;> decide, fun f hf => ?_⟩
    have ho : (original s).1 = .error (.failed f) := hf
    rw [ho]
    rfl
  case cons a as hi =>
    obtain ⟨hs, hr⟩ := h
    have hc := a.attended_course services j (nestField services j original as) s
    obtain ⟨hle, hzero⟩ := hc.countP_le fun t ht => hi (hr t ht)
    refine ⟨hle, fun f hf => hzero f ?_ (hs f hf)⟩
    rw [Advice.fst_attended]
    exact hf

namespace AutowireChain

-- The sessions in which the value of a field is looked up while it is filled through its advices.
def consultations (services : Services σ) (c : AutowireChain σ) (s : Session σ) :
    List (Session σ) :=
  finds services c.joint (lookUp services c.joint c.provider)
    c.advisors.advisors s

-- No advice of the field fails with a value in its hands.
def Steadfast (services : Services σ) (c : AutowireChain σ) (s : Session σ) : Prop :=
  Steady services c.joint (lookUp services c.joint c.provider) c.advisors.advisors s

-- The turns of an advice are those of its run, and what is inside of it is run for no others. Along
-- the whole chain, what is at its end is found at most once, unless an advice fails with the value
-- in its hands.
theorem proceeds_memoized (services : Services σ) :
    (∀ (j : FieldJoint) (a : Advice σ) (inner : Act σ Value) (s : Session σ),
      (a.attended services j inner s).1 = a.advise services (.autowire j) (reply inner) none s ∧
      Turn.Memoized inner (a.attended services j inner s).2 ∧
      ∀ inner' : Act σ Value, (∀ t ∈ a.fetches services j inner s, inner' t = inner t) →
        a.attended services j inner' s = a.attended services j inner s) ∧
    ∀ (c : AutowireChain σ) (s : Session σ),
      (∀ original : Act σ Value,
        (∀ t ∈ c.consultations services s, original t = lookUp services c.joint c.provider t) →
          nestField services c.joint original c.advisors.advisors s = c.resolve services s) ∧
      (c.Steadfast services s → (c.consultations services s).countP
        (fun t => (lookUp services c.joint c.provider t).1.isOk) ≤ 1) := by
  refine ⟨fun j a inner s => ⟨?run, ?turns, fun inner' => a.attended_congr services j⟩,
    fun c s => ⟨fun original h => ?chain, fun h => ?once⟩⟩
  case run   => exact a.fst_attended services j inner s
  case turns => exact (a.attended_course services j inner s).memoized
  case chain =>
    exact (nestField_congr services c.joint h).trans (congrFun (through_eq_nest ..) s).symm
  case once => exact (countP_finds services c.joint h).left

-- A lamp that is not found the first time.
def flicker : Provider Nat :=
  ⟨"shop.Lamp", .read fun n => .write (n + 1) <|
    if n = 0 then .fail (.other "dark") else .result (.text "lit")⟩

-- An advice that tries again if it has to, and proceeds once more with success.
def patience : Advice Nat where
  aspect := "shop.Audit"
  method := "wait"
  pointcut := .leaf .autowire (.autowire ⟨.parse "shop.Lamp", none⟩)
  provider := ⟨"shop.Audit", .result .unit⟩
  body := fun _ jp => jp.tryProceed.bind fun _ => jp.proceed.bind fun _ => jp.proceed
  privilege := lowestPrivilege

def dimly : AutowireChain Nat where
  joint := ⟨.plain "shop.Desk", .plain "lamp" "shop.Lamp"⟩
  provider := some flicker
  advisors := Ranked.empty.insert patience

def idle : Services Nat where
  get typeName := Act.raise (.componentNotFound typeName)
  invoke h _ method _ := Act.raise (.methodNotFound h.typeName method)

-- Of three proceeds two have the lamp looked up, and one of them finds it.
theorem proceeds_memoized_dimly : dimly.Steadfast idle (.start 0) ∧
    (dimly.consultations idle (.start 0)).length = 2 ∧
    (dimly.resolve idle (.start 0)).1 = .ok (.text "lit") ∧
    (dimly.consultations idle (.start 0)).countP
      (fun t => (lookUp idle dimly.joint dimly.provider t).1.isOk) ≤ 1 := by
  have hr : (dimly.resolve idle (.start 0)).1 = .ok (.text "lit") := rfl
  have hs : dimly.Steadfast idle (.start 0) := by
    refine ⟨fun f hf => ?_, fun _ _ => trivial⟩
    cases hr.symm.trans hf
  exact ⟨hs, rfl, hr, ((proceeds_memoized idle).right dimly (.start 0)).right hs⟩

end AutowireChain
end Interpose
