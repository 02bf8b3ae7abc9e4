import Mathlib.Data.List.Forall2

namespace Interpose.Outcome

variable {ε ε' α β γ : Type}

@[simp]
theorem bind_eq_ok {x : Except ε α} {f : α → Except ε β} {b : β} :
    x >>= f = .ok b ↔ ∃ a, x = .ok a ∧ f a = .ok b := by
  cases x <;> simp [bind, Except.bind]

@[simp]
theorem map_eq_ok {x : Except ε α} {f : α → β} {b : β} :
    f <$> x = .ok b ↔ ∃ a, x = .ok a ∧ f a = b := by
  cases x <;> simp [Functor.map, Except.map]

-- Another wording of the error makes no difference to the result.
theorem eq_ok_of_mapError {x : Except ε α} {f : ε → ε'} {a : α} (h : x.mapError f = .ok a) :
    x = .ok a := by
  cases x
  case error => cases h
  case ok    => cases h; rfl

@[simp]
theorem pure_eq_ok {a b : α} : (pure a : Except ε α) = .ok b ↔ a = b := by
  simp [pure, Except.pure]

@[simp]
theorem toOption_eq_some {x : Except ε α} {a : α} : x.toOption = some a ↔ x = .ok a := by
  cases x <;> simp [Except.toOption]

theorem any_toOption {x : Except ε α} {f : α → Bool} :
    x.toOption.any f = true ↔ ∃ a, x = .ok a ∧ f a = true := by
  cases x <;> simp [Except.toOption]

theorem isOk_iff {x : Except ε α} : x.isOk = true ↔ ∃ a, x = .ok a := by
  cases x <;> simp [Except.isOk, Except.toBool]

theorem mapM_eq_ok {f : α → Except ε β} {as : List α} {bs : List β} :
    as.mapM f = .ok bs ↔ List.Forall₂ (fun a b => f a = .ok b) as bs := by
  induction as generalizing bs
  case nil => rw [List.mapM_nil, pure_eq_ok, List.forall₂_nil_left_iff, eq_comm]
  case cons a as hi =>
    rw [List.mapM_cons, bind_eq_ok]
    simp only [bind_eq_ok, pure_eq_ok, hi]
    constructor
    case mp  => rintro ⟨b, hb, bs, hbs, rfl⟩; exact .cons hb hbs
    case mpr => rintro (_ | ⟨hb, hbs⟩); exact ⟨_, hb, _, hbs, rfl⟩

-- The first element that fails ends it.
theorem mapM_eq_error {f : α → Except ε β} {as : List α} {e : ε} (h : as.mapM f = .error e) :
    ∃ a ∈ as, f a = .error e := by
  induction as
  case nil => cases h
  case cons a as hi =>
    rw [List.mapM_cons] at h
    cases ha : f a <;> rw [ha] at h
    case error => cases h; exact ⟨a, List.mem_cons_self, ha⟩
    case ok b =>
      cases hs : as.mapM f <;> rw [hs] at h <;> cases h
      have ⟨a', hm, he⟩ := hi hs
      exact ⟨a', List.mem_cons_of_mem a hm, he⟩

-- What goes with an element is in the other list.
theorem exists_of_mem {R : α → β → Prop} {as : List α} {bs : List β} (h : List.Forall₂ R as bs) :
    ∀ a ∈ as, ∃ b ∈ bs, R a b := by
  induction h
  case nil => exact nofun
  case cons hab _ hi =>
    refine List.forall_mem_cons.mpr ⟨⟨_, List.mem_cons_self, hab⟩, fun a ha => ?_⟩
    have ⟨b, hb, hab⟩ := hi a ha
    exact ⟨b, List.mem_cons_of_mem _ hb, hab⟩

-- Every element has a partner if they can be paired off.
theorem exists_forall₂ {R : α → β → Prop} {as : List α} :
    (∃ bs, List.Forall₂ R as bs) ↔ ∀ a ∈ as, ∃ b, R a b := by
  induction as
  case nil => exact ⟨fun _ => nofun, fun _ => ⟨[], .nil⟩⟩
  case cons a as hi =>
    rw [List.forall_mem_cons, ← hi]
    constructor
    case mp =>
      intro ⟨_, h⟩
      cases h
      case cons hb hbs => exact ⟨⟨_, hb⟩, _, hbs⟩
    case mpr => exact fun ⟨⟨b, hb⟩, bs, hbs⟩ => ⟨b :: bs, .cons hb hbs⟩

theorem mapM_eq_some {f : α → Option β} {as : List α} {bs : List β} :
    as.mapM f = some bs ↔ List.Forall₂ (fun a b => f a = some b) as bs := by
  induction as generalizing bs
  case nil => simp [eq_comm]
  case cons a as hi =>
    simp only [List.mapM_cons, Option.bind_eq_bind, Option.bind_eq_some_iff, Option.pure_def,
      Option.some_inj, hi]
    constructor
    case mp  => rintro ⟨b, hb, bs, hbs, rfl⟩; exact .cons hb hbs
    case mpr => rintro (_ | ⟨hb, hbs⟩); exact ⟨_, hb, _, hbs, rfl⟩

theorem exists_mapM_eq_some {f : α → Option β} {as : List α} :
    (∃ bs, as.mapM f = some bs) ↔ ∀ a ∈ as, ∃ b, f a = some b := by
  simp only [mapM_eq_some, exists_forall₂]

theorem mem_iff_of_mapM {f : α → Option β} {as : List α} {bs : List β} {b : β}
    (h : as.mapM f = some bs) : b ∈ bs ↔ ∃ a ∈ as, f a = some b := by
  have hm : as.map f = bs.map some := by
    rw [← List.forall₂_eq_eq_eq, List.forall₂_map_left_iff, List.forall₂_map_right_iff]
    exact mapM_eq_some.mp h
  rw [← List.mem_map, hm]
  simp

theorem foldlM_cons_eq_ok {f : β → α → Except ε β} {a : α} {as : List α} {b c : β} :
    (a :: as).foldlM f b = .ok c ↔ ∃ b', f b a = .ok b' ∧ as.foldlM f b' = .ok c := by
  rw [List.foldlM_cons, bind_eq_ok]

section Monad

variable {m : Type → Type} [Monad m] [LawfulMonad m]

-- Results can be changed one by one.
theorem mapM_map (f : α → m β) (g : β → γ)
    (as : List α) : (as.mapM fun a => g <$> f a) = List.map g <$> as.mapM f := by
  induction as
  case nil => simp
  case cons a as hi => simp [hi]

-- A step after each of some elements has been gone through only meets as many results.
theorem mapM_bind_congr {f : α → m β} {k k' : List β → m γ} {as : List α}
    (h : ∀ bs, bs.length = as.length → k bs = k' bs) : as.mapM f >>= k = as.mapM f >>= k' := by
  induction as generalizing k k'
  case nil => simpa using h [] rfl
  case cons a as hi =>
    simp only [List.mapM_cons, bind_assoc, pure_bind]
    exact bind_congr fun b => hi fun bs hl => h (b :: bs) (congrArg Nat.succ hl)

theorem mapM_eq_pure {f : α → m β} {as : List α} {bs : List β}
    (h : List.Forall₂ (fun a b => f a = pure b) as bs) : as.mapM f = pure bs := by
  induction h
  case nil => rfl
  case cons hab _ hi => rw [List.mapM_cons, hab, hi, pure_bind, pure_bind]

-- What comes behind the first element that fails makes no difference.
theorem mapM_of_error {f : α → ExceptT ε m β} {before after : List α} {a : α} {e : ε}
    (hb : ∀ b ∈ before, ∃ c, f b = pure c) (he : f a = throw e) :
    (before ++ a :: after).mapM f = throw e := by
  have ht {γ : Type} (k : β → ExceptT ε m γ) : (throw e : ExceptT ε m β) >>= k = throw e :=
    ExceptT.ext (by simp)
  induction before
  case nil => rw [List.nil_append, List.mapM_cons, he, ht]
  case cons b before hi =>
    have ⟨⟨c, hc⟩, hb⟩ := List.forall_mem_cons.mp hb
    rw [List.cons_append, List.mapM_cons, hc, pure_bind, hi hb]
    exact ExceptT.ext (by simp)

end Monad

section AtFirst

variable {ok ok' : α → Prop} {fault : α → ε → Prop} {a : α} {as : List α} {e : ε}

-- The first element that is not in order is at fault.
def AtFirst (ok : α → Prop) (fault : α → ε → Prop) (as : List α) (e : ε) : Prop :=
  ∃ before a after, as = before ++ a :: after ∧ (∀ b ∈ before, ok b) ∧ fault a e

theorem not_atFirst_nil : ¬AtFirst ok fault [] e :=
  fun ⟨_, _, _, h, _⟩ => List.append_ne_nil_of_right_ne_nil _ (List.cons_ne_nil _ _) h.symm

theorem atFirst_cons : AtFirst ok fault (a :: as) e ↔ fault a e ∨ ok a ∧ AtFirst ok fault as e := by
  constructor
  case mp =>
    intro ⟨before, b, after, h, hb, he⟩
    cases before
    case nil =>
      cases h
      exact .inl he
    case cons =>
      cases h
      have ⟨ha, hb⟩ := List.forall_mem_cons.mp hb
      exact .inr ⟨ha, _, b, after, rfl, hb, he⟩
  case mpr =>
    intro h
    cases h
    case inl he => exact ⟨[], a, as, rfl, nofun, he⟩
    case inr h =>
      have ⟨ha, before, b, after, hs, hb, he⟩ := h
      exact ⟨a :: before, b, after, hs ▸ rfl, List.forall_mem_cons.mpr ⟨ha, hb⟩, he⟩

theorem atFirst_congr (h : ∀ a ∈ as, ok a ↔ ok' a) :
    AtFirst ok fault as e ↔ AtFirst ok' fault as e := by
  refine exists_congr fun before => exists_congr fun a => exists_congr fun after => ?_
  refine and_congr_right fun hs => and_congr_left fun _ => forall₂_congr fun b hb => h b ?_
  exact hs ▸ List.mem_append_left _ hb

end AtFirst

section Rel

variable {ε₁ ε₂ : Type} {δ : Type} {E : ε → ε' → Prop} {E' : ε₁ → ε₂ → Prop}
variable {R : α → β → Prop} {S : γ → δ → Prop} {x : Except ε α} {y : Except ε' β}

-- Both end with results or both with errors, which are related.
inductive Rel {ε ε' α β : Type} (E : ε → ε' → Prop) (R : α → β → Prop) :
    Except ε α → Except ε' β → Prop
  | ok {a : α} {b : β} : R a b → Rel E R (.ok a) (.ok b)
  | error {e : ε} {e' : ε'} : E e e' → Rel E R (.error e) (.error e')

theorem rel_iff : Rel E R x y ↔ (∃ a b, x = .ok a ∧ y = .ok b ∧ R a b) ∨
    ∃ e e', x = .error e ∧ y = .error e' ∧ E e e' := by
  constructor
  case mp =>
    rintro (h | h)
    case ok    => exact .inl ⟨_, _, rfl, rfl, h⟩
    case error => exact .inr ⟨_, _, rfl, rfl, h⟩
  case mpr =>
    rintro (⟨_, _, rfl, rfl, h⟩ | ⟨_, _, rfl, rfl, h⟩)
    case inl => exact .ok h
    case inr => exact .error h

theorem Rel.bind {f : α → Except ε γ} {g : β → Except ε' δ} (h : Rel E R x y)
    (hf : ∀ a b, R a b → Rel E S (f a) (g b)) : Rel E S (x >>= f) (y >>= g) := by
  cases h
  case ok h    => exact hf _ _ h
  case error h => exact .error h

theorem Rel.map {f : α → γ} {g : β → δ} (h : Rel E R x y) (hf : ∀ a b, R a b → S (f a) (g b)) :
    Rel E S (x.map f) (y.map g) := by
  cases h
  case ok h    => exact .ok (hf _ _ h)
  case error h => exact .error h

theorem Rel.mapError {f : ε → ε₁} {g : ε' → ε₂} (h : Rel E R x y)
    (hf : ∀ e e', E e e' → E' (f e) (g e')) : Rel E' R (x.mapError f) (y.mapError g) := by
  cases h
  case ok h    => exact .ok h
  case error h => exact .error (hf _ _ h)

theorem Rel.mapM {f : α → Except ε γ} {g : β → Except ε' δ} {as : List α} {bs : List β}
    (h : List.Forall₂ R as bs) (hf : ∀ a b, R a b → Rel E S (f a) (g b)) :
    Rel E (List.Forall₂ S) (as.mapM f) (bs.mapM g) := by
  induction h
  case nil => exact .ok .nil
  case cons hab _ hi =>
    rw [List.mapM_cons, List.mapM_cons]
    exact (hf _ _ hab).bind fun _ _ hc => hi.bind fun _ _ hcs => .ok (.cons hc hcs)

end Rel

end Interpose.Outcome

namespace Interpose.Step

variable {ε τ α β : Type} {x : ExceptT ε (StateM τ) α} {f : α → ExceptT ε (StateM τ) β} {s s' : τ}

theorem bind_of_ok {a : α} (h : x s = (.ok a, s')) : (x >>= f) s = f a s' := by
  change ExceptT.bindCont f (x s).1 (x s).2 = _
  rw [h]
  rfl

theorem bind_of_error {e : ε} (h : x s = (.error e, s')) : (x >>= f) s = (.error e, s') := by
  change ExceptT.bindCont f (x s).1 (x s).2 = _
  rw [h]
  rfl

theorem bind_congr_left {y : ExceptT ε (StateM τ) α} (h : x s = y s) :
    (x >>= f) s = (y >>= f) s := by
  change ExceptT.bindCont f (x s).1 (x s).2 = ExceptT.bindCont f (y s).1 (y s).2
  rw [h]

theorem bind_eq_ok {b : β} :
    (x >>= f) s = (.ok b, s') ↔ ∃ a t, x s = (.ok a, t) ∧ f a t = (.ok b, s') := by
  cases h : x s
  case mk r t =>
    cases r
    case error =>
      rw [bind_of_error h]
      exact ⟨nofun, nofun⟩
    case ok a =>
      rw [bind_of_ok h]
      exact ⟨fun hf => ⟨a, t, rfl, hf⟩, fun ⟨_, _, ht, hf⟩ => by cases ht; exact hf⟩

theorem bind_eq_error {e : ε} : (x >>= f) s = (.error e, s') ↔
    x s = (.error e, s') ∨ ∃ a t, x s = (.ok a, t) ∧ f a t = (.error e, s') := by
  cases h : x s
  case mk r t =>
    cases r
    case error =>
      rw [bind_of_error h]
      constructor
      case mp  => exact fun hf => .inl (by cases hf; rfl)
      case mpr =>
        rintro (hf | ⟨_, _, ht, _⟩)
        case inl => cases hf; rfl
        case inr => cases ht
    case ok a =>
      rw [bind_of_ok h]
      constructor
      case mp  => exact fun hf => .inr ⟨a, t, rfl, hf⟩
      case mpr =>
        rintro (hf | ⟨_, _, ht, hf⟩)
        case inl => cases hf
        case inr => cases ht; exact hf

theorem pure_eq_ok {a b : α} :
    (pure a : ExceptT ε (StateM τ) α) s = (.ok b, s') ↔ a = b ∧ s = s' := by
  change ((Except.ok a, s) : Except ε α × τ) = (.ok b, s') ↔ _
  simp

theorem fst_run_map (g : α → β) (x : ExceptT ε (StateM τ) α) (s : τ) :
    ((g <$> x).run s).1 = (x.run s).1.map g := by
  rw [ExceptT.run_map]
  rfl

-- A list is gone through one by one, each element in a state that the others have left; what they
-- all keep of the state is there for each of them.
theorem mapM_eq_ok {I : τ → Prop} {R : α → β → Prop} {as : List α} {bs : List β}
    (hf : ∀ a b t t', I t → f a t = (.ok b, t') → R a b ∧ I t') (hs : I s)
    (h : as.mapM f s = (.ok bs, s')) : List.Forall₂ R as bs ∧ I s' := by
  induction as generalizing s bs
  case nil =>
    obtain ⟨rfl, rfl⟩ := pure_eq_ok.mp h
    exact ⟨.nil, hs⟩
  case cons a as hi =>
    rw [List.mapM_cons] at h
    obtain ⟨b, t, hb, h⟩ := bind_eq_ok.mp h
    obtain ⟨bs', t', hbs, h⟩ := bind_eq_ok.mp h
    obtain ⟨rfl, rfl⟩ := pure_eq_ok.mp h
    have ⟨hr, ht⟩ := hf a b s t hs hb
    have ⟨hrs, ht'⟩ := hi ht hbs
    exact ⟨.cons hr hrs, ht'⟩

end Interpose.Step
