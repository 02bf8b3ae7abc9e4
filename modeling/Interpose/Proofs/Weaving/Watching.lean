import Interpose.Proofs.Pointcut.Compiling
import Interpose.Proofs.Pointcut.Matching
import Interpose.Proofs.Weaving.Classification

namespace Interpose

open Outcome

namespace Pointcut

-- Some designator is about the caller, and not every caller will do.
def NamesCallers (ds : List Designator) : Prop :=
  ∃ pattern, pattern.isTrivial = false ∧ (.within pattern ∈ ds ∨ .annotatedWithin pattern ∈ ds)

-- The designators that say which methods are meant.
def executionLeaves : Pointcut → List Designator
  | divergent e _ => e.leaves
  | p => if p.isExecution then p.leaves else []

variable {domain : Domain} {p q r : Pointcut} {ds es : List Designator} {text : String}

theorem namesCallers_append : NamesCallers (ds ++ es) ↔ NamesCallers ds ∨ NamesCallers es := by
  constructor
  case mp =>
    rintro ⟨pattern, hn, h | h⟩ <;> cases List.mem_append.mp h
    case inl.inl h => exact .inl ⟨pattern, hn, .inl h⟩
    case inl.inr h => exact .inr ⟨pattern, hn, .inl h⟩
    case inr.inl h => exact .inl ⟨pattern, hn, .inr h⟩
    case inr.inr h => exact .inr ⟨pattern, hn, .inr h⟩
  case mpr =>
    rintro (⟨pattern, hn, h⟩ | ⟨pattern, hn, h⟩)
    case inl => exact ⟨pattern, hn, h.imp (List.mem_append_left _) (List.mem_append_left _)⟩
    case inr => exact ⟨pattern, hn, h.imp (List.mem_append_right _) (List.mem_append_right _)⟩

theorem watchesCaller_leaf (domain : Domain) (d : Designator) :
    (leaf domain d).watchesCaller = true ↔ NamesCallers [d] := by
  cases d <;> simp [watchesCaller, NamesCallers]

namespace Uniform

theorem watchesCaller_iff (h : p.Uniform domain) :
    p.watchesCaller = true ↔ NamesCallers p.leaves := by
  induction h
  case leaf => exact watchesCaller_leaf ..
  case and hl hr =>
    rw [watchesCaller, Bool.or_eq_true, hl, hr, Pointcut.leaves, namesCallers_append]
  case or hl hr =>
    rw [watchesCaller, Bool.or_eq_true, hl, hr, Pointcut.leaves, namesCallers_append]
  case not hi => exact hi

-- Where fields are meant, there are no designators about callers.
theorem not_namesCallers (h : p.Uniform .autowire) : ¬NamesCallers p.leaves := by
  rintro ⟨_, _, hd | hd⟩
  case inl => cases h.leaves _ hd
  case inr => cases h.leaves _ hd

theorem namesCallers_iff (h : p.Uniform domain) :
    NamesCallers p.executionLeaves ↔ NamesCallers p.leaves := by
  have hl : p.executionLeaves = if p.isExecution then p.leaves else [] := by
    cases h <;> rfl
  cases domain
  case execution => rw [hl, h.isExecution, beq_self_eq_true, if_pos rfl]
  case autowire =>
    rw [hl, h.isExecution]
    exact iff_of_false (by simp [NamesCallers]) h.not_namesCallers

end Uniform

-- What is merged are alternatives of one domain.
theorem exists_disj_of_merge (h : merge p q = .ok r) : ∃ domain, disj domain p q = .ok r := by
  rw [merge] at h
  split at h
  case isTrue  => cases h
  case isFalse =>
    split at h
    case isTrue  => cases h
    case isFalse =>
      split at h
      case isTrue  => cases h
      case isFalse => exact ⟨_, h⟩

namespace Constructible

-- A pointcut watches the caller just if its execution side names callers.
theorem watchesCaller_iff (h : Constructible p) :
    p.watchesCaller = true ↔ NamesCallers p.executionLeaves := by
  rcases constructible_iff.mp h with ⟨_, hu⟩ | ⟨e, w, rfl, he, _⟩
  case inl => exact hu.watchesCaller_iff.trans hu.namesCallers_iff.symm
  case inr => exact he.watchesCaller_iff

theorem of_parse (h : parse text = .ok p) : Constructible p :=
  have ⟨_, _, hp⟩ := parse_eq_ok.mp h
  hp.sided.constructible

theorem merge (hp : Constructible p) (hq : Constructible q) (h : merge p q = .ok r) :
    Constructible r :=
  have ⟨_, h⟩ := exists_disj_of_merge h
  .disj hp hq h

theorem foldlM_merge {ps : List Pointcut} (hp : Constructible p) (hps : ∀ q ∈ ps, Constructible q)
    (h : ps.foldlM Pointcut.merge p = .ok r) : Constructible r := by
  induction ps generalizing p
  case nil => exact pure_eq_ok.mp h ▸ hp
  case cons q ps hi =>
    have ⟨hq, hps⟩ := List.forall_mem_cons.mp hps
    have ⟨_, hm, h⟩ := foldlM_cons_eq_ok.mp h
    exact hi (hp.merge hq hm) hps h

end Constructible
end Pointcut

-- All of this holds of the pointcuts that advices are declared with.
theorem Method.Declares.constructible {m : Method} {p : Pointcut} (h : m.Declares p) :
    p.Constructible := by
  have ⟨first, rest, hg, hm⟩ := h
  have hc : List.Forall₂ (fun (q : Pointcut) (note : Annotation) => q.Constructible ∧ note.Gives q)
      (first :: rest) (m.annotationsNamed aroundAnnotation) :=
    hg.flip.imp fun _ _ hq => ⟨.of_parse hq.choose_spec.right, hq⟩
  have ⟨hf, hr⟩ := List.forall_mem_cons.mp ((List.forall₂_and_left _ _).mp hc).left
  exact .foldlM_merge hf hr hm

-- Of the advices that were attached to a method while types were woven, those take part in a call
-- whose pointcut selects it, though not all of them are asked.
theorem Advice.maySelect_and_takesPart {σ : Type} (types : Hierarchy) (caller : Option String)
    (j : MethodJoint) (a : Advice σ) :
    (a.pointcut.maySelectMethod types j && a.takesPart types caller j) =
      a.pointcut.selectsMethod types caller j := by
  have hm : a.pointcut.selectsMethod types caller j = true →
      a.pointcut.maySelectMethod types j = true := Pointcut.maySelectMethod_of_selectsMethod
  rw [takesPart]
  cases hw : a.pointcut.watchesCaller
  case false =>
    rw [Bool.not_false, Bool.true_or, Bool.and_true]
    exact (Pointcut.selectsMethod_eq_maySelectMethod hw caller).symm
  case true =>
    cases hs : a.pointcut.selectsMethod types caller j
    case false => simp
    case true  => simp [hm hs]

namespace Pointcut

-- A pointcut watches the caller just if its execution side names callers. If it does not, then it
-- says the same of a method whatever is known of the caller, so that what was found while types
-- were woven holds of every call. It is so for the pointcuts of all advices, and those that are
-- not asked in a call would agree.
theorem watchesCaller_exact :
    (∀ p, Constructible p →
      (p.watchesCaller = true ↔ NamesCallers p.executionLeaves) ∧
      (p.watchesCaller = false → ∀ types j,
        (∀ c, p.verdict types c j = p.verdict types .unknown j) ∧
        ∀ caller, p.selectsMethod types caller j = p.maySelectMethod types j)) ∧
    (∀ (m : Method) p, m.Declares p → Constructible p) ∧
    ∀ (σ : Type) (a : Advice σ) types caller j,
      (a.pointcut.maySelectMethod types j && a.takesPart types caller j) =
        a.pointcut.selectsMethod types caller j := by
  refine ⟨fun p hp => ⟨hp.watchesCaller_iff, fun hw types j => ⟨fun c => ?verdict, ?selects⟩⟩,
    fun _ _ => Method.Declares.constructible, fun _ a types caller j => ?attached⟩
  case verdict  => exact verdict_eq_of_not_watchesCaller hw types j c
  case selects  => exact selectsMethod_eq_maySelectMethod hw
  case attached => exact a.maySelect_and_takesPart types caller j

-- Watches sales to whomever, by a pattern for all callers.
def watchSales : Method :=
  (Method.advice "watch").around "execution(* sell(..)) && !within(*) || autowire(*)"

-- Watches trade, but no sales of clerks.
def watchTrade : Method :=
  ((Method.advice "watch").around "execution(* sell(..)) && !within(shop.Clerk)").around
    "execution(* buy(..))"

theorem watchesCaller_exact_trade :
    ∃ p q, watchSales.Declares p ∧ Constructible p ∧ p.watchesCaller = false ∧
      (∀ types j, (∀ c, p.verdict types c j = p.verdict types .unknown j) ∧
        ∀ caller, p.selectsMethod types caller j = p.maySelectMethod types j) ∧
      watchTrade.Declares q ∧ Constructible q ∧ q.watchesCaller = true ∧
      NamesCallers q.executionLeaves := by
  have hp : (parse "execution(* sell(..)) && !within(*) || autowire(*)").toOption.any
      fun p => p.watchesCaller == false := by
    decide +kernel
  have hq : ((parse "execution(* sell(..)) && !within(shop.Clerk)").toOption.bind fun first =>
      (parse "execution(* buy(..))").toOption.bind fun second =>
        (first.merge second).toOption).any (·.watchesCaller) := by
    decide +kernel
  have ⟨p, hp, hpw⟩ := any_toOption.mp hp
  have ⟨q, hq, hqw⟩ := (Option.any_eq_true ..).mp hq
  have ⟨first, hf, hq⟩ := Option.bind_eq_some_iff.mp hq
  have ⟨second, hs, hm⟩ := Option.bind_eq_some_iff.mp hq
  have hm : [second].foldlM Pointcut.merge first = .ok q :=
    foldlM_cons_eq_ok.mpr ⟨q, toOption_eq_some.mp hm, rfl⟩
  have hpd : watchSales.Declares p := ⟨p, [], .cons ⟨_, rfl, hp⟩ .nil, rfl⟩
  have hqd : watchTrade.Declares q :=
    ⟨first, [second], .cons ⟨_, rfl, toOption_eq_some.mp hf⟩ <|
      .cons ⟨_, rfl, toOption_eq_some.mp hs⟩ .nil, hm⟩
  have ⟨hexact, hconstructible, _⟩ := watchesCaller_exact
  have hpc := hconstructible _ _ hpd
  have hqc := hconstructible _ _ hqd
  exact ⟨p, q, hpd, hpc, eq_of_beq hpw, (hexact p hpc).right (eq_of_beq hpw), hqd, hqc, hqw,
    (hexact q hqc).left.mp hqw⟩

end Pointcut
end Interpose
