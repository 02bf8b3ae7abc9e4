import Interpose.Proofs.Weaving.Attachment
import Interpose.Proofs.Weaving.Injection
import Interpose.Proofs.Weaving.Watching

namespace Interpose

open Outcome

-- The type of a parameter that only takes the join points of a domain.
def Pointcut.Domain.joinPointTypeName : Pointcut.Domain → String
  | .execution => proceedingJoinPointTypeName
  | .autowire => autowireJoinPointTypeName

namespace Pointcut

variable {domain domain' : Domain} {p q r : Pointcut} {ps : List Pointcut}

theorem Only.eq (h : p.Only domain) (h' : p.Only domain') : domain = domain' := by
  cases domain <;> cases domain' <;> simp_all [Only, Domain.other]

-- Pointcuts are only merged with others of their domain.
theorem only_of_merge (h : merge p q = .ok r) (hr : r.Only domain) :
    p.Only domain ∧ q.Only domain := by
  have ⟨domain', hd⟩ := exists_disj_of_merge h
  have ⟨hp, hq, he⟩ := disj_eq_ok.mp hd
  have hr' : r.Only domain' := he ▸ only_iff.mpr isOnly_or
  cases hr.eq hr'
  exact ⟨only_iff.mpr hp, only_iff.mpr hq⟩

theorem only_of_foldlM_merge (h : ps.foldlM merge p = .ok r) (hr : r.Only domain) :
    ∀ q ∈ p :: ps, q.Only domain := by
  induction ps generalizing p
  case nil => exact List.forall_mem_singleton.mpr (pure_eq_ok.mp h ▸ hr)
  case cons q ps hi =>
    have ⟨_, hm, h⟩ := foldlM_cons_eq_ok.mp h
    have ⟨hp, hps⟩ := List.forall_mem_cons.mp (hi h)
    have ⟨hp, hq⟩ := only_of_merge hm hp
    exact List.forall_mem_cons.mpr ⟨hp, List.forall_mem_cons.mpr ⟨hq, hps⟩⟩

end Pointcut

section Declarations

variable {σ : Type} {catalog : Catalog σ} {providers : Providers σ} {t : TypeDescription}
variable {m : Method} {a : Advice σ} {note : Annotation} {domain : Pointcut.Domain}
variable {p q : Pointcut}

theorem Annotation.Gives.eq (h : note.Gives p) (h' : note.Gives q) : p = q := by
  have ⟨text, ht, hp⟩ := h
  have ⟨text', ht', hq⟩ := h'
  cases ht.symm.trans ht'
  exact Except.ok.inj (hp.symm.trans hq)

-- If the pointcut of a method is of one domain alone, then so are all its expressions.
theorem Method.Declares.only (h : m.Declares p) (hp : p.Only domain) :
    ∀ note ∈ m.annotationsNamed aroundAnnotation, ∀ q, note.Gives q → q.Only domain := by
  have ⟨first, rest, hg, hm⟩ := h
  intro note hn q hq
  have ⟨_, hm', hg⟩ := exists_of_mem hg note hn
  exact hg.eq hq ▸ Pointcut.only_of_foldlM_merge hm hp _ hm'

theorem Advice.DeclaredBy.only (h : a.DeclaredBy catalog providers t m)
    (hm : m.params = [domain.joinPointTypeName]) : a.pointcut.Only domain := by
  have hd := h.domain
  have hb := a.pointcut.isExecution_or_isAutowire
  rw [Method.domainFault?, hm] at hd
  cases domain <;> revert hd hb <;> cases he : a.pointcut.isExecution <;>
    cases hw : a.pointcut.isAutowire <;>
    simp [Pointcut.Only, Pointcut.belongsTo, Pointcut.Domain.other, he, hw,
      Pointcut.Domain.joinPointTypeName, proceedingJoinPointTypeName, autowireJoinPointTypeName]

end Declarations

namespace Layer

variable {σ : Type} {types : Hierarchy} {advices : List (Advice σ)} {config : WeavingConfig}
variable {l : Layer σ} {a : Advice σ} {domain : Pointcut.Domain}

-- The layer has the advice at some join point of the domain.
def AttachedIn (l : Layer σ) (a : Advice σ) : Pointcut.Domain → Prop
  | .execution => ∃ j, a ∈ l.advisorsAt j
  | .autowire => ∃ j, a ∈ l.advisorsAtField j

theorem belongsTo_of_attachedIn (h : weave types advices config = .ok l)
    (ha : l.AttachedIn a domain) : a ∈ advices ∧ a.pointcut.belongsTo domain = true := by
  cases domain
  case execution =>
    have ⟨_, ha⟩ := ha
    have ⟨ha, k, hk⟩ := mem_of_advisorsAt h ha
    have ⟨_, hs⟩ := List.mem_filter.mp hk
    exact ⟨ha, Pointcut.isExecution_of_maySelectMethod hs⟩
  case autowire =>
    have ⟨_, ha⟩ := ha
    have ⟨ha, k, hk⟩ := mem_of_advisorsAtField h ha
    have ⟨_, hs⟩ := List.mem_filter.mp hk
    exact ⟨ha, (Bool.and_eq_true_iff.mp hs).left⟩

-- A pointcut of one domain alone leads to no join point of the other.
theorem not_attachedIn (h : weave types advices config = .ok l) (ha : a.pointcut.Only domain) :
    ¬l.AttachedIn a domain.other := by
  intro hl
  have ⟨_, hb⟩ := belongsTo_of_attachedIn h hl
  cases ha.right.symm.trans hb

theorem attached_iff : l.Attached a ↔ ∃ domain, l.AttachedIn a domain := by
  constructor
  case mp  => exact fun h => h.elim (⟨.execution, ·⟩) (⟨.autowire, ·⟩)
  case mpr =>
    intro ⟨domain, h⟩
    cases domain
    case execution => exact .inl h
    case autowire  => exact .inr h

end Layer

namespace Blueprint

variable {σ : Type} {b : Blueprint σ} {outside : String → Definition σ} {layer : Layer σ}
variable {advices : List (Advice σ)} {a : Advice σ}

-- The advices are those that aspects among the types declare.
theorem exists_declared (h : b.advices (b.unfinished outside) = .ok advices) (ha : a ∈ advices) :
    ∃ e ∈ Classification.declarations b.registry.hierarchy,
      a.DeclaredBy b.catalog (b.unfinished outside).providers e.1 e.2 := by
  cases he : b.config.enabled
  case false =>
    rw [Blueprint.advices, he] at h
    cases h
    cases ha
  case true => exact exists_of_mem (declaredBy_of_advices h he).flip a ha

end Blueprint
end Interpose
