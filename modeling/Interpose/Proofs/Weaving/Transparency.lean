import Interpose.Proofs.Container.Presence
import Interpose.Proofs.Container.Service
import Interpose.Proofs.Weaving.Injection
import Interpose.Proofs.Weaving.Making

namespace Interpose

variable {σ α : Type} {services : Services σ} {providers : Providers σ} {l : Layer σ}
variable {d : Definition σ} {p : Proxy σ} {P : Session σ → Prop} {s : Session σ}

-- The instance of the aspect is there without further ado, and with it the advice does nothing but
-- let its join point proceed.
def Advice.PassesThrough (services : Services σ) (P : Session σ → Prop) (a : Advice σ) : Prop :=
  ∀ s, P s → ∃ v, a.provider.supply.runPlain services s = (.ok v, s) ∧
    ∀ jp, a.body v jp = jp.proceed

-- To go on with an outcome as it is makes no difference.
theorem Act.attempt_resume (x : Act σ α) : (x.attempt >>= fun r => resume r) = x := by
  funext s
  rcases h : x s with ⟨_ | a, t⟩
  case ok =>
    have ha : x.attempt s = (.ok (.ok a), t) := by simp only [attempt, h]
    rw [Step.bind_of_ok ha]
    rfl
  case error halt =>
    cases halt
    case failed f =>
      have ha : x.attempt s = (.ok (.error f), t) := by simp only [attempt, h]
      rw [Step.bind_of_ok ha]
      rfl
    case exhausted =>
      have ha : x.attempt s = (.error .exhausted, t) := by simp only [attempt, h]
      rw [Step.bind_of_error ha]

section Nest

variable {a : Advice σ} {as : List (Advice σ)}

theorem Advice.around_passes (h : a.PassesThrough services P) (hs : P s) (j : MethodJoint)
    (inner : Call → Act σ Value) (i : Call) : a.around services j inner i s = inner i s := by
  have ⟨v, hv, hb⟩ := h s hs
  have hr : ∀ r : Except Failure Value, (Behaviour.ofExcept (R := .execution) r).answered services
      inner i = Act.resume r := by
    intro r
    cases r <;> rfl
  have hu : (JoinPoint.proceed (.execution j i)).untilRequest services s =
      (.ok (.asks (R := .execution) none Behaviour.ofExcept), s) := rfl
  rw [around, Step.bind_of_ok hv, hb, (answered_proceeds services inner i).proceeds hu]
  simp only [hr, Act.attempt_resume]

theorem Advice.aroundField_passes (h : a.PassesThrough services P) (hs : P s) (j : FieldJoint)
    (inner : Act σ Value) : a.aroundField services j inner s = inner s := by
  have ⟨v, hv, hb⟩ := h s hs
  have hr : ∀ r : Except Failure Value, (Behaviour.ofExcept (R := .autowire) r).fetched services
      inner r.toOption = Act.resume r := by
    intro r
    cases r <;> rfl
  have hu : (JoinPoint.proceed (.autowire j)).untilRequest services s =
      (.ok (.asks (R := .autowire) .proceed Behaviour.ofExcept), s) := rfl
  rw [aroundField, Step.bind_of_ok hv, hb, (fetched_fetches services inner).proceeds hu]
  simp only [hr, Act.attempt_resume]

theorem nest_passes (h : ∀ a ∈ as, a.PassesThrough services P) (hs : P s) (j : MethodJoint)
    (original : Call → Act σ Value) (i : Call) :
    nest services j original as i s = original i s := by
  induction as
  case nil => rfl
  case cons a as hi =>
    have ⟨ha, has⟩ := List.forall_mem_cons.mp h
    exact (a.around_passes ha hs j _ i).trans (hi has)

theorem nestField_passes (h : ∀ a ∈ as, a.PassesThrough services P) (hs : P s) (j : FieldJoint)
    (original : Act σ Value) : nestField services j original as s = original s := by
  induction as
  case nil => rfl
  case cons a as hi =>
    have ⟨ha, has⟩ := List.forall_mem_cons.mp h
    exact (a.aroundField_passes ha hs j _).trans (hi has)

-- A chain of such advices is the code that they are around.
theorem MethodChain.invoke_passes {c : MethodChain σ}
    (h : ∀ a ∈ c.advisors.advisors, a.PassesThrough services P) (hs : P s) (i : Call) :
    c.invoke services i s = (c.intercepted.run c.joint i).runPlain services s := by
  have ht := through_eq_nest services c.types c.joint c.intercepted c.advisors.advisors i
  rw [invoke, ht]
  exact nest_passes (fun a ha => h a (List.mem_of_mem_filter ha)) hs c.joint _ i

end Nest

section Intercepted

variable (j : MethodJoint)

-- The wiring that an allocation gets through a chain is the one that went in.
theorem Intercepted.run_allocation (allocator : AllocationCode σ) (w : Wiring) :
    (allocation allocator).run j ⟨none, none, [w.toValue]⟩ = allocator w :=
  rfl

theorem Intercepted.run_initialization (init : InitializationCode σ) (target : Value) :
    (initialization init).run j ⟨none, some target, []⟩ =
      (init target).bind fun _ => .result .unit :=
  rfl

-- What an initialization gives back through a chain is not looked at.
theorem discard_initialization (init : InitializationCode σ) (target : Value) {x : Act σ Value}
    (hx : x s =
      ((Intercepted.initialization init).run j ⟨none, some target, []⟩).runPlain services s) :
    discard x s = (init target).runPlain services s := by
  rw [Intercepted.run_initialization, Behaviour.runPlain_bind] at hx
  rw [Container.discard_eq, hx]
  rcases hi : (init target).runPlain services s with ⟨_ | _, t⟩
  case error => rw [Step.bind_of_error hi]; rfl
  case ok    => rw [Step.bind_of_ok hi]; rfl

end Intercepted

namespace Proxy.Synthesized

variable (h : Synthesized l providers d p)
variable (hpass : ∀ a, l.Attached a → a.PassesThrough services P) (hs : P s)
include h hpass hs

theorem allocate_passes (w : Wiring) :
    p.allocate services w s = (d.allocator w).runPlain services s := by
  cases hc : p.newChain
  case some c =>
    have ⟨j, advisors, ho, he⟩ := h.newChain_eq_some hc
    subst he
    have hpass : ∀ a ∈ advisors.advisors, a.PassesThrough services P :=
      fun a ha => hpass a (Layer.attached_of_onMethod ho ha)
    rw [allocate, hc, ← Intercepted.run_allocation j d.allocator w]
    exact MethodChain.invoke_passes hpass hs _
  case none => rw [allocate, hc, h.definition]

theorem finish_passes (target : Value) :
    (p.making services providers).finish target s =
      (d.making services providers).finish target s := by
  cases hc : p.initChain
  case some c =>
    have ⟨j, init, advisors, hi, ho, he⟩ := h.initChain_eq_some hc
    subst he
    have hpass : ∀ a ∈ advisors.advisors, a.PassesThrough services P :=
      fun a ha => hpass a (Layer.attached_of_onMethod ho ha)
    simp only [Making.finish, making, Definition.making, hc, hi, Option.map_some]
    exact discard_initialization j init target (MethodChain.invoke_passes hpass hs _)
  case none => simp only [Making.finish, making, Definition.making, hc, h.definition]

omit hs in
-- Each step of the proxy is the step that is taken without it.
theorem agrees_passes (hd : d.Regular) (he : providers.Exact) :
    Making.Agrees P (d.making services providers) (p.making services providers) where
  fields   := congrArg (·.type.injectedFields) h.definition
  allocate := fun w s hs => h.allocate_passes hpass hs w
  finish   := fun target s hs => h.finish_passes hpass hs target
  value    := by
    intro f hf s hs
    have hpass : ∀ a ∈ l.advisorsAtField ⟨d.type, f⟩, a.PassesThrough services P :=
      fun a ha => hpass a (.inr ⟨_, ha⟩)
    have hv : p.fieldValue services providers f = _ :=
      h.fieldValue_eq hd he (List.mem_of_mem_filter hf)
    exact (congrFun hv s).trans (nestField_passes hpass hs _ _)
  prepare  := by
    cases hc : p.initChain
    case some c =>
      have ⟨_, _, _, hi, _⟩ := h.initChain_eq_some hc
      simp only [making, Definition.making, hc, hi, Option.map_some, Option.isSome_some]
    case none => simp only [making, Definition.making, hc, h.definition]

end Proxy.Synthesized

theorem Making.Agrees.refl (m : Making σ) : m.Agrees P m where
  fields   := rfl
  value    := fun _ _ _ _ => rfl
  allocate := fun _ _ _ => rfl
  finish   := fun _ _ _ => rfl
  prepare  := rfl

-- The code that is run while an instance is made keeps what all code keeps.
theorem Definition.making_keeps (hk : services.Keeps P) :
    Making.Keeps P (d.making services providers) where
  value    := by
    intro f s hs
    change P (providers.get services f.fieldType s).2
    rw [← Providers.runPlain_code]
    exact hk.runPlain _ hs
  allocate := fun w s hs => hk.runPlain _ hs

namespace Proxies

variable {c : Container σ} {t : Proxies σ} {advices : List (Advice σ)} {config : WeavingConfig}

theorem making_agrees (hr : c.registry.Regular)
    (hw : Layer.weave c.registry.hierarchy advices config = .ok l)
    (ht : ofLayer l c.registry c.providers = .ok t)
    (hpass : ∀ a, l.Attached a → a.PassesThrough services P) (hd : d ∈ c.registry.definitions) :
    (d.making services c.providers).Agrees P (t.making services c.providers d) := by
  rw [making]
  cases hp : t.get? d.name
  case none => exact .refl _
  case some p =>
    have hl := Layer.get?_of_weave hw hd
    have hs := Proxy.synthesized (ofDefinition_of_get? ht hd hp) hl
    exact hs.agrees_passes hpass (hr d hd) c.providers_exact

-- If all advices that are attached to anything only let it proceed, then instances are made by the
-- same work as without advices, step by step and with the same outcome.
theorem instantiate_transparent (hr : c.registry.Assembled)
    (hw : Layer.weave c.registry.hierarchy advices config = .ok l)
    (ht : ofLayer l c.registry c.providers = .ok t) (hk : services.Keeps P)
    (hpass : ∀ a, l.Attached a → a.PassesThrough services P) (hd : d ∈ c.registry.definitions)
    (hs : P s) :
    (d.making services c.providers).Agrees P (t.making services c.providers d) ∧
    ∃ works r, (d.making services c.providers).Creates s works r ∧
      (t.making services c.providers d).Creates s works r ∧
      d.instantiate services c.providers s = handing d.name .direct r ∧
      ∃ route, t.instantiate services c.providers d s = handing d.name route r := by
  have ha := making_agrees hr.regular hw ht hpass hd
  have ⟨works, hc⟩ := (d.making services c.providers).creates_run s
  have hc' := ha.creates (Definition.making_keeps hk) hs hc
  refine ⟨ha, works, _, hc, hc', d.instantiate_eq_handing s, ?_⟩
  have ⟨route, hi⟩ := t.instantiate_eq_handing services c.providers d s
  exact ⟨route, hi.trans (congrArg _ hc'.run_eq)⟩

end Proxies

-- An advice of an aspect that has been made passes through if its code does no more than proceed.
theorem Advice.DeclaredBy.passesThrough {c : Container σ} {catalog : Catalog σ}
    {m : Method} {a : Advice σ} {h : Handle} {made : List (String × Handle)}
    (ha : a.DeclaredBy catalog c.providers d.type m) (hd : d ∈ c.registry.definitions)
    (hsc : d.scope = .singleton) (hm : (d.name, h) ∈ made) (depth : Nat)
    (hb : ∀ body, catalog.body? d.name m.name = some body →
      ∀ jp, body h.toValue jp = jp.proceed) :
    a.PassesThrough (c.services (depth + 1)) (Session.Has made) := by
  intro s hs
  have hp : c.providers d.name = .ok (Container.provider d.name) := by
    rw [Container.providers, Container.componentFor, Container.resolve, Registry.resolve_name hd]
    rfl
  have hp' : a.provider = Container.provider d.name :=
    Except.ok.inj <| ha.provider.symm.trans hp
  refine ⟨h.toValue, ?_, hb a.body ha.body⟩
  rw [hp']
  exact Container.supply_of_has hd hsc hs hm depth

namespace Blueprint

-- A key, a vault for it that is closed once it is there, and an aspect that only looks on.
def key : Definition Unit :=
  .make (.plain "shop.Key") fun _ => return .text "key"

def vault : Definition Unit :=
  ((Definition.make (.plain "shop.Vault") fun w => return w.toValue).addField
    (.plain "key" "shop.Key")).setInit .wiring fun _ => return ()

def look : Method :=
  (Method.advice "look").around
    "execution(* new(..)) || execution(* init(..)) || autowire(shop.Key)"

def onlooker : Aspect Unit :=
  (Aspect.make (.plain "shop.Onlooker") fun _ => return .unit).around look .unit
    fun _ jp => jp.proceed

def lockedVault : Blueprint Unit where
  registry := ⟨[onlooker.component, key, vault], by decide +kernel⟩
  catalog := Catalog.empty.insert onlooker.name onlooker.advices
  config := .default

theorem lockedVault_assembled : lockedVault.registry.Assembled := by
  have ho : Registry.empty.register onlooker.component =
      .ok ⟨[onlooker.component], by decide +kernel⟩ := rfl
  have hk : Registry.register ⟨[onlooker.component], by decide +kernel⟩ key =
      .ok ⟨[onlooker.component, key], by decide +kernel⟩ := rfl
  have hv : Registry.register ⟨[onlooker.component, key], by decide +kernel⟩ vault =
      .ok lockedVault.registry := rfl
  have ha : onlooker.component.Assembled := .method _ _ <| .make _ _
  have hva : vault.Assembled := .init _ _ _ <| .field _ _ <| .make _ _
  exact .register _ _ _ (.register _ _ _ (.register _ _ _ .empty ha ho) (.make _ _) hk) hva hv

theorem lockedVault_builds : ∃ w s' h,
    lockedVault.build elsewhere 1 (.start ()) = (.ok (.ok w), s') ∧
    s'.Has [(onlooker.name, h)] ∧ h.target = .unit := by
  have hw : ((lockedVault.build elsewhere 1 (.start ())).1.toOption.bind (·.toOption)).isSome := by
    decide +kernel
  have hd : (lockedVault.build elsewhere 1 (.start ())).2.dropped = false := by decide +kernel
  have hc : ((lockedVault.build elsewhere 1 (.start ())).2.cells.lookup onlooker.name).any
      (fun h => (Kind.unit.read? h.target).isSome) := by decide +kernel
  have ⟨w, hw⟩ := Option.isSome_iff_exists.mp hw
  have ⟨r, hb, hr⟩ := Option.bind_eq_some_iff.mp hw
  cases Outcome.toOption_eq_some.mp hr
  have ⟨h, hh, ht⟩ := (Option.any_eq_true ..).mp hc
  refine ⟨w, _, h, Prod.ext (Outcome.toOption_eq_some.mp hb) rfl, ⟨hd, ?_⟩, ?_⟩
  case refine_1 => exact List.forall_mem_singleton.mpr hh
  case refine_2 =>
    cases htarget : h.target <;> rw [htarget] at ht <;> first | rfl | cases ht

theorem lockedVault_passes {advices : List (Advice Unit)} {layer : Layer Unit}
    {w : WovenContainer Unit} {h : Handle} (hw : lockedVault.Weaves elsewhere advices layer w)
    (ht : h.target = .unit) (depth : Nat) : ∀ a, layer.Attached a →
      a.PassesThrough (w.container.services (depth + 1)) (Session.Has [(onlooker.name, h)]) := by
  intro a ha
  have hmem := Layer.mem_of_attached hw.layered ha
  have hf := hw.declared rfl
  have hl : Classification.declarations lockedVault.registry.hierarchy =
      [(onlooker.component.type, look)] := by decide +kernel
  rw [hl] at hf
  cases hf
  case cons hdecl hrest =>
    cases hrest
    cases List.mem_singleton.mp hmem
    have hp : (lockedVault.unfinished elsewhere).providers = w.container.providers := by
      rw [hw.container]
      rfl
    have hd : onlooker.component ∈ w.container.registry.definitions := by
      rw [hw.container]
      exact List.mem_cons_self
    rw [hp] at hdecl
    refine hdecl.passesThrough hd rfl List.mem_cons_self depth fun body hbody jp => ?_
    have hbody' : lockedVault.catalog.body? onlooker.component.name look.name =
        some fun this jp => (Behaviour.check (Kind.unit.cast this)).bind fun _ => jp.proceed := rfl
    cases Option.some.inj (hbody'.symm.trans hbody)
    cases h
    cases ht
    rfl

theorem instantiate_transparent_vault : ∃ w s',
    lockedVault.build elsewhere 1 (.start ()) = (.ok (.ok w), s') ∧
    ∃ works r route,
      (vault.making (w.container.services 1) w.container.providers).Creates s' works r ∧
      vault.instantiate (w.container.services 1) w.container.providers s' =
        handing vault.name .direct r ∧
      w.table.instantiate (w.container.services 1) w.container.providers vault s' =
        handing vault.name route r := by
  have ⟨w, s', h, hb, hs, ht⟩ := lockedVault_builds
  have ⟨advices, layer, hw⟩ := weaves_of_build hb
  have hp : w.container.providers = (lockedVault.unfinished elsewhere).providers := by
    rw [hw.container]
    rfl
  have hm : w.container.MadeBy (.woven w.table) := by
    rw [hw.container]
    rfl
  have hd : vault ∈ (lockedVault.unfinished elsewhere).registry.definitions :=
    List.mem_cons_of_mem _ (List.mem_cons_of_mem _ List.mem_cons_self)
  have hk := Container.services_keep_has hm 1 [(onlooker.name, h)]
  have ⟨_, works, r, hc, _, hi, route, hi'⟩ := Proxies.instantiate_transparent
    lockedVault_assembled hw.layered hw.proxied hk (lockedVault_passes hw ht 0) hd hs
  rw [← hp] at hc hi hi'
  exact ⟨w, s', hb, works, r, route, hc, hi, hi'⟩

end Blueprint
end Interpose
