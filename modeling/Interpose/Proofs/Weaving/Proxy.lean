import Interpose.Proofs.Component.Registry
import Interpose.Proofs.Weaving.Layer
import Interpose.Weaving.Proxy

namespace Interpose

open Outcome

variable {σ : Type} {l : Layer σ} {providers : Providers σ} {r : Registry σ} {d : Definition σ}
variable {t : Proxies σ} {p : Proxy σ} {m : Method}

-- A call by a passage.
def Passage.call (services : Services σ) (caller : Option String) (target : Value)
    (args : List Value) : Passage σ → Act σ Value
  | direct body => (body target args).runPlain services
  | woven chain => chain.invoke services ⟨caller, some target, args⟩

namespace Proxy

theorem dispatch_eq_call {method : String} {q : Passage σ} (h : p.passages.lookup method = some q)
    (services : Services σ) (caller : Option String) (target : Value) (args : List Value) :
    p.dispatch services caller target method args = q.call services caller target args := by
  cases q <;> simp [dispatch, h, Passage.call]

theorem ofDefinition_eq_ok (h : ofDefinition l providers d = .ok p) :
    p.definition = d ∧ ∃ t, l.types.get? d.name = some t ∧
      p.passages = t.methodJoints.filterMap (passage? l d) := by
  unfold ofDefinition at h
  split at h
  case h_1 => cases h
  case h_2 t ht =>
    obtain ⟨chains, _, h⟩ := bind_eq_ok.mp h
    cases h
    exact ⟨rfl, t, ht, rfl⟩

-- The passage to code: through the advices at its join point, if there are any.
def passageTo (l : Layer σ) (j : MethodJoint) (body : MethodCode σ) : Passage σ :=
  match l.onMethod j with
  | some advisors => .woven ⟨j, l.types, .method body, advisors⟩
  | none => .direct body

theorem passage?_eq (l : Layer σ) (d : Definition σ) (j : MethodJoint) : passage? l d j =
    if j.method.kind = .method then (d.body? j.name).map ((j.name, passageTo l j ·)) else none := by
  unfold passage? passageTo
  cases j.method.kind <;> cases d.body? j.name <;> cases l.onMethod j <;> rfl

theorem passage?_of_body? {j : MethodJoint} {body : MethodCode σ} (hk : j.method.kind = .method)
    (hb : d.body? j.name = some body) : passage? l d j = some (j.name, passageTo l j body) := by
  rw [passage?_eq, if_pos hk, hb]
  rfl

theorem fst_of_passage? {j : MethodJoint} {e : String × Passage σ} (h : passage? l d j = some e) :
    e.1 = j.name := by
  rw [passage?_eq] at h
  split at h
  case isFalse => cases h
  case isTrue =>
    obtain ⟨body, _, rfl⟩ := Option.map_eq_some_iff.mp h
    rfl

-- A proxy finds the passage to a method by the name of the method.
theorem lookup_passages (h : ofDefinition l providers d = .ok p) (hd : d.Regular)
    (ht : l.types.get? d.name = some d.type) (hm : m ∈ d.type.methods) :
    p.passages.lookup m.name = (passage? l d ⟨d.type, m⟩).map (·.2) := by
  obtain ⟨_, t, ht', hp⟩ := ofDefinition_eq_ok h
  cases ht.symm.trans ht'
  have hn := TypeDescription.nodup_name_methodJoints hd.methods
  have hj : (⟨d.type, m⟩ : MethodJoint) ∈ d.type.methodJoints := List.mem_map_of_mem hm
  exact hp ▸ Keyed.lookup_filterMap fst_of_passage? hn hj

end Proxy

namespace Proxies

theorem ofLayer_eq_ok (h : ofLayer l r providers = .ok t) :
    List.Forall₂ (fun d p => Proxy.ofDefinition l providers d = .ok p)
      (r.definitions.filter fun d => l.hasProxy d.name) t.proxies := by
  obtain ⟨ps, hp, h⟩ := bind_eq_ok.mp h
  cases h
  exact mapM_eq_ok.mp hp

theorem rel_get? (h : ofLayer l r providers = .ok t) (name : String) :
    Option.Rel (fun d p => Proxy.ofDefinition l providers d = .ok p)
      ((r.definitions.filter fun d => l.hasProxy d.name).find? (·.name == name)) (t.get? name) := by
  have hn : ∀ (d : Definition σ) p, Proxy.ofDefinition l providers d = .ok p → p.name = d.name :=
    fun _ _ h => congrArg Definition.name (Proxy.ofDefinition_eq_ok h).left
  exact Keyed.rel_find? hn (ofLayer_eq_ok h) name

-- The components with advices have proxies, and they alone.
theorem get?_of_hasProxy (h : ofLayer l r providers = .ok t) (hd : d ∈ r.definitions)
    (hl : l.hasProxy d.name = true) :
    ∃ p, t.get? d.name = some p ∧ Proxy.ofDefinition l providers d = .ok p := by
  have hs : (r.definitions.filter fun d => l.hasProxy d.name).Sublist r.definitions :=
    List.filter_sublist
  have hm : d ∈ r.definitions.filter fun d => l.hasProxy d.name := List.mem_filter.mpr ⟨hd, hl⟩
  have hr := rel_get? h d.name
  rw [Keyed.find?_eq_some (r.nodup.sublist (hs.map _)) hm] at hr
  generalize t.get? d.name = o at hr ⊢
  cases hr
  case some hp => exact ⟨_, rfl, hp⟩

theorem get?_of_not_hasProxy (h : ofLayer l r providers = .ok t) {name : String}
    (hl : l.hasProxy name = false) : t.get? name = none := by
  have hr := rel_get? h name
  have hf : (r.definitions.filter fun d => l.hasProxy d.name).find? (·.name == name) = none := by
    simp only [List.find?_eq_none, List.mem_filter, beq_iff_eq]
    rintro d ⟨_, hd⟩ rfl
    simp [hl] at hd
  rw [hf] at hr
  generalize t.get? name = o at hr ⊢
  cases hr
  rfl

theorem dispatch_construction {h : Handle} (hp : t.get? h.typeName = some p)
    (services : Services σ) (caller : Option String) (method : String) (args : List Value) :
    t.construction.dispatch services h caller method args =
      p.dispatch services caller h.target method args := by
  simp [construction, hp]

end Proxies
end Interpose
