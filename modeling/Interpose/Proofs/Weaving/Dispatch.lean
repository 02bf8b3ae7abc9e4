import Interpose.Proofs.Metadata.Modifiers
import Interpose.Proofs.Weaving.Build
import Interpose.Proofs.Weaving.Nesting
import Interpose.Proofs.Weaving.Watching

namespace Interpose

variable {σ α : Type}

namespace Act

variable {x : Act σ α} {a : α} {s s' : Session σ} {name : String}

theorem whileCreating_eq_ok (h : x.whileCreating name s = (.ok a, s')) : x s = (.ok a, s') := by
  unfold whileCreating at h
  split at h
  case h_1 => cases h
  case h_2 => exact h

theorem newHandle_eq_ok {target : Value} {route : Route} {h : Handle}
    (hh : newHandle name target route s = (.ok h, s')) : h.typeName = name ∧ h.route = route := by
  cases hh
  exact ⟨rfl, rfl⟩

end Act

namespace Container

-- A handle that the container has made for a component.
def Makes (c : Container σ) (d : Definition σ) (h : Handle) : Prop :=
  ∃ services s s', c.create services d s = (.ok h, s')

variable {c : Container σ} {h : Handle}

theorem invoke_of_woven {i : Construction σ} (hr : h.route = .woven) (hc : c.construction = some i)
    (services : Services σ) (caller : Option String) (method : String) (args : List Value) :
    c.invoke services h caller method args = i.dispatch services h caller method args := by
  simp [invoke, hr, hc]

theorem invoke_of_direct {d : Definition σ} (hr : h.route = .direct)
    (hd : c.registry.get? h.typeName = some d) (services : Services σ) (caller : Option String)
    (method : String) (args : List Value) :
    c.invoke services h caller method args = (d.dispatch h.target method args).runPlain services := by
  simp [invoke, hr, hd]

end Container

theorem Definition.instantiate_eq_ok {services : Services σ} {providers : Providers σ}
    {d : Definition σ} {s s' : Session σ} {h : Handle}
    (hh : d.instantiate services providers s = (.ok h, s')) :
    h.typeName = d.name ∧ h.route = .direct := by
  obtain ⟨wiring, _, _, hh⟩ := Step.bind_eq_ok.mp hh
  obtain ⟨target, _, _, hh⟩ := Step.bind_eq_ok.mp hh
  cases hi : d.initializer <;> simp only [hi] at hh <;>
    obtain ⟨_, _, _, hh⟩ := Step.bind_eq_ok.mp hh <;> exact Act.newHandle_eq_ok hh

theorem Proxy.instantiate_eq_ok {services : Services σ} {providers : Providers σ} {p : Proxy σ}
    {s s' : Session σ} {h : Handle} (hh : p.instantiate services providers s = (.ok h, s')) :
    h.typeName = p.name ∧ h.route = .woven := by
  obtain ⟨wiring, _, _, hh⟩ := Step.bind_eq_ok.mp hh
  obtain ⟨target, _, _, hh⟩ := Step.bind_eq_ok.mp hh
  obtain ⟨_, _, _, hh⟩ := Step.bind_eq_ok.mp hh
  exact Act.newHandle_eq_ok hh

-- What was settled for an advice while types were woven and what it looks at in a call.
theorem attaches_and_takesPart (types : Hierarchy) (caller : Option String) (j : MethodJoint)
    (a : Advice σ) : (Layer.attaches types j a && a.takesPart types caller j) =
      (!j.declaring.isAspect && j.method.isAdvisable &&
        a.pointcut.selectsMethod types caller j) := by
  rw [Layer.attaches, Bool.and_assoc, a.maySelect_and_takesPart]

-- A call of a method without any advice.
def originally (services : Services σ) (j : MethodJoint) (body : MethodCode σ) (i : Call) :
    Act σ Value :=
  ((Intercepted.method body).run j i).runPlain services

-- Whether there is a chain or none, the call is the nesting of the advices that take part.
theorem Proxy.call_passageTo (services : Services σ) (layer : Layer σ) (j : MethodJoint)
    (body : MethodCode σ) (caller : Option String) (target : Value) (args : List Value) :
    (Proxy.passageTo layer j body).call services caller target args =
      nest services j (originally services j body)
        ((layer.advisorsAt j).filter (·.takesPart layer.types caller j))
        ⟨caller, some target, args⟩ := by
  cases h : layer.onMethod j
  case none =>
    rw [passageTo, Layer.advisorsAt, h]
    rfl
  case some advisors =>
    rw [passageTo, Layer.advisorsAt, h]
    exact MethodChain.through_eq_nest ..

namespace Blueprint.Weaves

variable {b : Blueprint σ} {outside : String → Definition σ} {advices : List (Advice σ)}
variable {layer : Layer σ} {w : WovenContainer σ} {d : Definition σ} {m : Method} {h : Handle}
variable {body : MethodCode σ}

-- The handles of a component go by its proxy, if it has one.
theorem route_of_makes (hw : b.Weaves outside advices layer w) (hh : w.container.Makes d h) :
    (∀ p, w.table.get? d.name = some p → h.typeName = p.name ∧ h.route = .woven) ∧
    (w.table.get? d.name = none → h.typeName = d.name ∧ h.route = .direct) := by
  obtain ⟨services, s, s', hh⟩ := hh
  rw [hw.container] at hh
  have hh := Act.whileCreating_eq_ok hh
  change Proxies.instantiate w.table services _ d s = (.ok h, s') at hh
  constructor
  case left =>
    intro p hp
    rw [Proxies.instantiate, hp] at hh
    exact Proxy.instantiate_eq_ok hh
  case right =>
    intro hn
    rw [Proxies.instantiate, hn] at hh
    exact Definition.instantiate_eq_ok hh

-- A call goes by the passage that the layer has for the method.
theorem invoke_eq_call (hw : b.Weaves outside advices layer w) (hr : b.registry.Regular)
    (he : b.config.enabled = true) (hd : d ∈ b.registry.definitions) (hm : m ∈ d.type.methods)
    (hk : m.kind = .method) (hb : d.body? m.name = some body) (hh : w.container.Makes d h)
    (services : Services σ) (caller : Option String) (args : List Value) :
    w.container.invoke services h caller m.name args =
      (Proxy.passageTo layer ⟨d.type, m⟩ body).call services caller h.target args := by
  have hl := Layer.weave_eq_ok he hw.layered
  have ⟨hwoven, hdirect⟩ := hw.route_of_makes hh
  cases hp : layer.hasProxy d.name
  case true =>
    obtain ⟨p, hg, ho⟩ := Proxies.get?_of_hasProxy hw.proxied hd hp
    have hn : p.name = d.name := congrArg Definition.name (Proxy.ofDefinition_eq_ok ho).left
    have ⟨ht, hroute⟩ := hwoven p hg
    have hs : layer.types.get? d.name = some d.type := hl ▸ Registry.get?_hierarchy hd
    have hq := Proxy.lookup_passages ho (hr d hd) hs hm
    rw [Proxy.passage?_of_body? (j := ⟨d.type, m⟩) hk hb] at hq
    have hc : w.container.construction = some w.table.construction := by rw [hw.container]
    have hg' : w.table.get? h.typeName = some p := ht ▸ hn ▸ hg
    rw [Container.invoke_of_woven hroute hc, Proxies.dispatch_construction hg',
      Proxy.dispatch_eq_call hq]
  case false =>
    have hg := Proxies.get?_of_not_hasProxy hw.proxied hp
    have ⟨ht, hroute⟩ := hdirect hg
    have ho : layer.onMethod ⟨d.type, m⟩ = none := by
      by_contra hc
      have := Layer.hasProxy_of_onMethod hl (Option.isSome_iff_ne_none.mpr hc)
      exact Bool.false_ne_true <| hp.symm.trans this
    have hg' : w.container.registry.get? h.typeName = some d := by
      rw [hw.container, ht]
      exact Registry.get?_eq_some hd
    rw [Container.invoke_of_direct hroute hg']
    simp only [Definition.dispatch, hb, Proxy.passageTo, ho, Passage.call]

-- The advices around a call: those that select it, unless the method is kept from all advices.
theorem invoke_eq_filter (hw : b.Weaves outside advices layer w) (hr : b.registry.Regular)
    (he : b.config.enabled = true) (hd : d ∈ b.registry.definitions) (hm : m ∈ d.type.methods)
    (hk : m.kind = .method) (hb : d.body? m.name = some body) (hh : w.container.Makes d h)
    (services : Services σ) (caller : Option String) (args : List Value) :
    w.container.invoke services h caller m.name args =
      nest services ⟨d.type, m⟩ (originally services ⟨d.type, m⟩ body)
        (Ranked.sorted Advice.privilege <| advices.filter fun a =>
          !d.type.isAspect && m.isAdvisable &&
            a.pointcut.selectsMethod b.registry.hierarchy caller ⟨d.type, m⟩)
        ⟨caller, some h.target, args⟩ := by
  have hj := Registry.mem_methodJoints_hierarchy hd hm
  have hl := Layer.weave_eq_ok he hw.layered
  have ht : layer.types = b.registry.hierarchy := hl ▸ rfl
  have ha : layer.advisorsAt ⟨d.type, m⟩ = Ranked.sorted Advice.privilege
      (advices.filter (Layer.attaches b.registry.hierarchy ⟨d.type, m⟩)) :=
    hl ▸ Layer.advisorsAt_cover (fun _ => hr.methods) hj
  rw [hw.invoke_eq_call hr he hd hm hk hb hh, Proxy.call_passageTo, ha, ht,
    Ranked.filter_sorted_comm, List.filter_filter]
  simp only [Bool.and_comm (Advice.takesPart _ _ _ _), attaches_and_takesPart]

end Blueprint.Weaves

namespace Blueprint

variable {b : Blueprint σ} {outside : String → Definition σ} {depth : Nat} {s s' : Session σ}
variable {w : WovenContainer σ}

-- A call of a method on a handle of a component runs the classified advices that select it around
-- the code of the method, by ascending privilege and in the order of their declarations, and no
-- others. Methods of aspects and those with certain modifiers are left alone.
theorem dispatch_nests (ha : b.Assembled) (he : b.config.enabled = true)
    (hb : b.build outside depth s = (.ok (.ok w), s')) :
    ∃ advices, b.advices (b.unfinished outside) = .ok advices ∧
      List.Forall₂ (fun e a => a.DeclaredBy b.catalog (b.unfinished outside).providers e.1 e.2)
        (Classification.declarations b.registry.hierarchy) advices ∧
      ∀ d ∈ b.registry.definitions, ∀ m ∈ d.type.methods, m.kind = .method →
      ∀ body, d.body? m.name = some body → ∀ h, w.container.Makes d h →
      ∀ services caller args,
        (d.type.isAspect = false → (∀ k ∈ Method.shields, m.modifiers.has k = false) →
          w.container.invoke services h caller m.name args =
            nest services ⟨d.type, m⟩ (originally services ⟨d.type, m⟩ body)
              (Ranked.sorted Advice.privilege <| advices.filter
                (·.pointcut.selectsMethod b.registry.hierarchy caller ⟨d.type, m⟩))
              ⟨caller, some h.target, args⟩) ∧
        (d.type.isAspect = true ∨ (∃ k ∈ Method.shields, m.modifiers.has k = true) →
          w.container.invoke services h caller m.name args =
            (body h.target args).runPlain services) := by
  obtain ⟨advices, layer, hw⟩ := weaves_of_build hb
  refine ⟨advices, hw.classified, ?declared, ?calls⟩
  case declared =>
    have hc := hw.classified
    rw [Blueprint.advices, if_pos he] at hc
    exact Classification.advices_eq_ok Pointcut.Cache.empty_faithful (Prod.ext hc rfl)
  case calls =>
    intro d hd m hm hk body hbody h hh services caller args
    rw [hw.invoke_eq_filter ha.regular he hd hm hk hbody hh]
    constructor
    case left =>
      intro hd hm
      simp only [hd, Method.isAdvisable_iff.mpr hm, Bool.not_false, Bool.true_and]
    case right =>
      intro hs
      have hf : (!d.type.isAspect && m.isAdvisable) = false := by
        cases hs
        case inl hd => rw [hd, Bool.not_true, Bool.false_and]
        case inr hm => rw [Method.not_isAdvisable_iff.mpr hm, Bool.and_false]
      simp only [hf, Bool.false_and, List.filter_false, Ranked.sorted_nil]
      rfl

-- A till, and an aspect that lets what the clerk sells be sold.
def till : Definition Unit :=
  (Definition.make (.plain "shop.Till") fun _ => return .unit).addBody (.plain "sell") fun _ _ =>
    return .unit

def audit : Aspect Unit :=
  (Aspect.make (.plain "shop.Audit") fun _ => return .unit).around
    ((Method.advice "watch").around "execution(* sell(..)) && within(shop.Clerk)") .unit
    fun _ jp => jp.proceed

def watchedTill : Blueprint Unit where
  registry := ⟨[till, audit.component], by decide +kernel⟩
  catalog := Catalog.empty.insert audit.name audit.advices
  config := .default

theorem watchedTill_assembled : watchedTill.Assembled := by
  have ht : Blueprint.empty.component till =
      .ok ⟨⟨[till], by decide +kernel⟩, .empty, .default⟩ := rfl
  have ha : aspect ⟨⟨[till], by decide +kernel⟩, .empty, .default⟩ audit = .ok watchedTill := rfl
  exact .aspect _ _ _ (.component _ _ _ .empty ht) ha

def nowhere (name : String) : Definition Unit :=
  .make (.plain name) fun _ => return .unit

theorem dispatch_nests_till :
    ∃ w s', watchedTill.build nowhere 1 (.start ()) = (.ok (.ok w), s') ∧
    (∃ h, w.container.Makes till h) ∧
    ∃ advices, watchedTill.advices (watchedTill.unfinished nowhere) = .ok advices ∧
    ∀ h, w.container.Makes till h → ∀ services caller args,
      w.container.invoke services h caller "sell" args =
        nest services ⟨till.type, .plain "sell"⟩
          (originally services ⟨till.type, .plain "sell"⟩ fun _ _ => return .unit)
          (Ranked.sorted Advice.privilege <| advices.filter
            (·.pointcut.selectsMethod watchedTill.registry.hierarchy caller
              ⟨till.type, .plain "sell"⟩))
          ⟨caller, some h.target, args⟩ := by
  obtain ⟨w, s', hb, hh⟩ : ∃ w s', watchedTill.build nowhere 1 (.start ()) = (.ok (.ok w), s') ∧
      ∃ h, w.container.Makes till h := by
    have hc : ((watchedTill.build nowhere 1 (.start ())).1.toOption.bind (·.toOption)).any
        (fun w => (w.container.create (w.container.services 0) till (.start ())).1.isOk) := by
      decide +kernel
    obtain ⟨w, hw, hm⟩ := (Option.any_eq_true ..).mp hc
    simp only [Option.bind_eq_some_iff, Outcome.toOption_eq_some] at hw
    obtain ⟨_, hb, rfl⟩ := hw
    obtain ⟨h, hm⟩ := Outcome.isOk_iff.mp hm
    exact ⟨w, _, Prod.ext hb rfl, h, _, _, _, Prod.ext hm rfl⟩
  obtain ⟨advices, ha, _, hcalls⟩ := dispatch_nests watchedTill_assembled rfl hb
  refine ⟨w, s', hb, hh, advices, ha, fun h hm services caller args => ?_⟩
  have hd : till ∈ watchedTill.registry.definitions := List.mem_cons_self
  have hs : Method.plain "sell" ∈ till.type.methods := by decide
  exact (hcalls till hd _ hs rfl _ rfl h hm services caller args).left (by decide) (by decide)

end Blueprint
end Interpose
