import Interpose.Proofs.Pointcut.Cache
import Interpose.Weaving.Classification

namespace Interpose

open Outcome Classification

variable {σ : Type} {catalog : Catalog σ} {providers : Providers σ} {types : Hierarchy}
variable {t : TypeDescription} {m : Method} {a : Advice σ} {p : Pointcut} {name : String}
variable {c c' : Pointcut.Cache}

-- The pointcut that is written in an annotation.
def Annotation.Gives (note : Annotation) (p : Pointcut) : Prop :=
  ∃ expression, note.value? = some expression ∧ Pointcut.parse expression = .ok p

-- The pointcut of a method: that of all its expressions, merged in their order.
def Method.Declares (m : Method) (p : Pointcut) : Prop :=
  ∃ first rest,
    List.Forall₂ Annotation.Gives (m.annotationsNamed aroundAnnotation) (first :: rest) ∧
    rest.foldlM Pointcut.merge first = .ok p

-- What an advice has from the aspect and the method that declare it.
structure Advice.DeclaredBy (catalog : Catalog σ) (providers : Providers σ) (t : TypeDescription)
    (m : Method) (a : Advice σ) : Prop where
  aspect    : a.aspect = t.name
  method    : a.method = m.name
  shape     : m.shapeFault? = none
  pointcut  : m.Declares a.pointcut
  domain    : m.domainFault? a.pointcut = none
  body      : catalog.body? t.name m.name = some a.body
  provider  : providers t.name = .ok a.provider
  privilege : t.advicePrivilege m.name = .ok a.privilege

namespace Classification

-- The advice methods with their aspects, in the order in which they are classified.
def declarations (types : Hierarchy) : List (TypeDescription × Method) :=
  (types.types.filter (·.isAspect)).flatMap fun t => (adviceMethods t).map (t, ·)

theorem liftM_eq_ok {α : Type} {x : Except WeavingError α} {v : α}
    (h : (liftM x : Reading α) c = (.ok v, c')) : x = .ok v ∧ c = c' := by
  cases x
  case error => cases h
  case ok    => cases h; exact ⟨rfl, rfl⟩

theorem refuse_eq_ok {fault : Option AdviceFault} {u : Unit}
    (h : refuse fault name c = (.ok u, c')) : fault = none ∧ c = c' := by
  cases fault
  case some => cases h
  case none => exact ⟨rfl, (Step.pure_eq_ok.mp h).right⟩

theorem bodyOf_eq_ok {aspect method : String} {body : AdviceBody σ}
    (h : bodyOf catalog aspect method = .ok body) : catalog.body? aspect method = some body := by
  unfold bodyOf at h
  split at h <;> cases h
  assumption

theorem readPointcut_eq_ok {expression : String} (hc : c.Faithful)
    (h : readPointcut name expression c = (.ok p, c')) :
    Pointcut.parse expression = .ok p ∧ c'.Faithful := by
  obtain ⟨_, _, hg, h⟩ := Step.bind_eq_ok.mp h
  cases hg
  cases hr : c.read expression <;> simp only [hr] at h
  case error => cases h
  case ok r =>
    obtain ⟨_, _, hs, h⟩ := Step.bind_eq_ok.mp h
    cases hs
    obtain ⟨rfl, rfl⟩ := Step.pure_eq_ok.mp h
    exact hc.read hr

theorem annotatedPointcut_eq_ok {note : Annotation} (hc : c.Faithful)
    (h : annotatedPointcut name note c = (.ok p, c')) :
    note.Gives p ∧ c'.Faithful := by
  unfold annotatedPointcut at h
  cases hv : note.value? <;> simp only [hv] at h
  case none => cases h
  case some expression =>
    have ⟨hp, hc'⟩ := readPointcut_eq_ok hc h
    exact ⟨⟨expression, hv, hp⟩, hc'⟩

theorem pointcutOf_eq_ok (hc : c.Faithful) (h : pointcutOf name m c = (.ok p, c')) :
    m.Declares p ∧ c'.Faithful := by
  obtain ⟨ps, t, hps, h⟩ := Step.bind_eq_ok.mp h
  have hs : ∀ note p c c', c.Faithful → annotatedPointcut name note c = (.ok p, c') →
      note.Gives p ∧ c'.Faithful := fun _ _ _ _ => annotatedPointcut_eq_ok
  have ⟨hf, ht⟩ := Step.mapM_eq_ok hs hc hps
  cases ps
  case nil => cases h
  case cons first rest =>
    cases hm : rest.foldlM Pointcut.merge first <;> simp only [hm] at h
    case error => cases h
    case ok q =>
      obtain ⟨rfl, rfl⟩ := Step.pure_eq_ok.mp h
      exact ⟨⟨first, rest, hf, hm⟩, ht⟩

theorem adviceOf_eq_ok (hc : c.Faithful) (h : adviceOf catalog providers t m c = (.ok a, c')) :
    a.DeclaredBy catalog providers t m ∧ c'.Faithful := by
  obtain ⟨_, _, hr, h⟩ := Step.bind_eq_ok.mp h
  obtain ⟨hs, rfl⟩ := refuse_eq_ok hr
  obtain ⟨p, _, hp, h⟩ := Step.bind_eq_ok.mp h
  have ⟨hp, hc'⟩ := pointcutOf_eq_ok hc hp
  obtain ⟨_, _, hr, h⟩ := Step.bind_eq_ok.mp h
  obtain ⟨hd, rfl⟩ := refuse_eq_ok hr
  obtain ⟨body, _, hr, h⟩ := Step.bind_eq_ok.mp h
  obtain ⟨hb, rfl⟩ := liftM_eq_ok hr
  obtain ⟨provider, _, hr, h⟩ := Step.bind_eq_ok.mp h
  obtain ⟨hv, rfl⟩ := liftM_eq_ok hr
  obtain ⟨privilege, _, hr, h⟩ := Step.bind_eq_ok.mp h
  obtain ⟨hl, rfl⟩ := liftM_eq_ok hr
  obtain ⟨rfl, rfl⟩ := Step.pure_eq_ok.mp h
  refine ⟨?declared, hc'⟩
  constructor
  case aspect    => rfl
  case method    => rfl
  case shape     => exact hs
  case pointcut  => exact hp
  case domain    => exact hd
  case body      => exact bodyOf_eq_ok hb
  case provider  => exact eq_ok_of_mapError hv
  case privilege => exact hl

-- Each declaration gives one advice, in its place.
theorem advices_eq_ok {as : List (Advice σ)} (hc : c.Faithful)
    (h : (advices catalog providers types).run c = (.ok as, c')) :
    List.Forall₂ (fun e a => a.DeclaredBy catalog providers e.1 e.2) (declarations types) as := by
  have hs : ∀ (e : TypeDescription × Method) (a : Advice σ) c c', c.Faithful →
      adviceOf catalog providers e.1 e.2 c = (.ok a, c') →
      a.DeclaredBy catalog providers e.1 e.2 ∧ c'.Faithful := fun _ _ _ _ => adviceOf_eq_ok
  exact (Step.mapM_eq_ok hs hc h).left

end Classification
end Interpose
