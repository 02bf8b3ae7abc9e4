import Interpose.Proofs.Weaving.Build
import Interpose.Proofs.Weaving.Wiring

namespace Interpose

variable {σ : Type}

namespace Container

variable {c : Container σ} {typeName name : String}

-- The container only misses what it was asked for.
theorem resolve_not_found (h : c.resolve typeName = .error (.componentNotFound name)) :
    name = typeName := by
  unfold resolve Registry.resolve at h
  split at h
  case h_1 => cases h
  case h_2 =>
    split at h
    case h_1 => cases h; rfl
    case h_2 => cases h
    case h_3 => cases h

theorem providers_exact (c : Container σ) : c.providers.Exact := by
  intro typeName name h
  apply c.resolve_not_found
  cases hr : c.resolve typeName <;> simp only [providers, componentFor, hr] at h
  case ok    => cases h
  case error => cases h; rfl

theorem get_of_not_found {services : Services σ}
    (h : c.componentFor typeName = .error (.componentNotFound name)) :
    c.providers.get services typeName = Act.raise (.componentNotFound typeName) := by
  have hp : c.providers typeName = .error (.componentNotFound name) := by rw [providers, h]; rfl
  rw [Providers.get, hp, c.providers_exact _ _ hp]
  rfl

end Container

-- What a field of a type gets: the advices whose pointcut selects it, by their privileges and those
-- of one privilege in the given order, around the component of its type.
def Container.injection (services : Services σ) (c : Container σ) (advices : List (Advice σ))
    (t : TypeDescription) (f : Field) : Act σ Value :=
  nestField services ⟨t, f⟩ (c.providers.get services f.fieldType)
    (Ranked.sorted Advice.privilege (advices.filter (·.pointcut.selectsField c.types ⟨t, f⟩)))

namespace Blueprint

variable {b : Blueprint σ} {outside : String → Definition σ} {advices : List (Advice σ)}
variable {layer : Layer σ} {w : WovenContainer σ} {d : Definition σ} {s s' : Session σ}
variable {depth : Nat}

theorem declaredBy_of_advices (h : b.advices (b.unfinished outside) = .ok advices)
    (he : b.config.enabled = true) :
    List.Forall₂ (fun e a => a.DeclaredBy b.catalog (b.unfinished outside).providers e.1 e.2)
      (Classification.declarations b.registry.hierarchy) advices := by
  rw [Blueprint.advices, if_pos he] at h
  exact Classification.advices_eq_ok Pointcut.Cache.empty_faithful (Prod.ext h rfl)

theorem Weaves.declared (hw : b.Weaves outside advices layer w) (he : b.config.enabled = true) :
    List.Forall₂ (fun e a => a.DeclaredBy b.catalog (b.unfinished outside).providers e.1 e.2)
      (Classification.declarations b.registry.hierarchy) advices :=
  declaredBy_of_advices hw.classified he

theorem Weaves.advisorsAtField (hw : b.Weaves outside advices layer w) (hr : b.registry.Regular)
    (he : b.config.enabled = true) (hd : d ∈ b.registry.definitions)
    (ha : d.type.isAspect = false) {f : Field} (hf : f ∈ d.type.injectedFields) :
    layer.advisorsAtField ⟨d.type, f⟩ = Ranked.sorted Advice.privilege
      (advices.filter (·.pointcut.selectsField b.registry.hierarchy ⟨d.type, f⟩)) := by
  have ⟨hm, hi⟩ := List.mem_filter.mp hf
  have hj := Registry.mem_fieldJoints_hierarchy hd hm
  have hl := Layer.weave_eq_ok he hw.layered
  rw [hl, Layer.advisorsAtField_cover (fun _ => hr.fields) hj]
  refine congrArg _ (List.filter_congr fun a _ => ?_)
  rw [Layer.attachesField, ha, hi, Bool.not_false, Bool.true_and, Bool.true_and]

-- An instance is made by the proxies.
theorem Weaves.create_eq_instantiate (hw : b.Weaves outside advices layer w)
    (services : Services σ) (d : Definition σ) : w.container.create services d =
      (w.table.instantiate services w.container.providers d).whileCreating d.name := by
  rw [hw.container]
  rfl

-- An instance is made of what its fields get.
theorem Weaves.create_eq (hw : b.Weaves outside advices layer w) (hr : b.registry.Regular)
    (he : b.config.enabled = true) (hd : d ∈ b.registry.definitions)
    (ha : d.type.isAspect = false) (services : Services σ) :
    w.container.create services d = Act.whileCreating d.name
      (d.wireBy (w.container.injection services advices d.type) >>=
        w.table.assemble services d) := by
  have hx := (b.unfinished outside).providers_exact
  have hp : w.container.providers = (b.unfinished outside).providers := by
    rw [hw.container]
    rfl
  rw [hw.create_eq_instantiate, hp, Proxies.instantiate_eq,
    Proxies.wire_eq_nest hr hw.layered hw.proxied hx hd]
  have hv : ∀ f ∈ d.type.injectedFields,
      nestField services ⟨d.type, f⟩
        ((b.unfinished outside).providers.get services f.fieldType)
        (layer.advisorsAtField ⟨d.type, f⟩) =
      w.container.injection services advices d.type f := by
    intro f hf
    rw [hw.advisorsAtField hr he hd ha hf, Container.injection, hw.container]
    rfl
  exact congrArg (fun x => Act.whileCreating d.name (x >>= w.table.assemble services d))
    (wireEach_congr hv)

-- The advices on injected fields, end to end: each field that is neither static nor final is wired,
-- to what the advices that select it make of the component of its type. If there is no such
-- component, this is only noticed when the innermost of them proceeds.
theorem injection_nests (ha : b.Assembled) (he : b.config.enabled = true)
    (hb : b.build outside depth s = (.ok (.ok w), s')) :
    ∃ advices, b.advices (b.unfinished outside) = .ok advices ∧
    List.Forall₂ (fun e a => a.DeclaredBy b.catalog (b.unfinished outside).providers e.1 e.2)
      (Classification.declarations b.registry.hierarchy) advices ∧
    ∀ d ∈ b.registry.definitions, d.type.isAspect = false → ∀ services,
      w.container.create services d = Act.whileCreating d.name
        (d.wireBy (w.container.injection services advices d.type) >>=
          w.table.assemble services d) ∧
      (∀ s s' wiring, d.wireBy (w.container.injection services advices d.type) s =
          (.ok wiring, s') → ∀ f ∈ d.type.fields,
        ((wiring.get? f.name).isSome ↔
          f.modifiers.has .static = false ∧ f.modifiers.has .final = false) ∧
        ∀ v, wiring.get? f.name = some v →
          ∃ t t', w.container.injection services advices d.type f t = (.ok v, t')) ∧
      (∀ typeName name, w.container.componentFor typeName = .error (.componentNotFound name) →
        w.container.providers.get services typeName = Act.raise (.componentNotFound typeName)) ∧
      ∀ (a : Advice σ) j inner, ∃ run, Fetches services inner run ∧
        a.aroundField services j inner = a.provider.supply.runPlain services >>= fun aspect =>
          run none (a.body aspect (.autowire j)) := by
  have ⟨advices, layer, hw⟩ := weaves_of_build hb
  have hr := ha.regular
  refine ⟨advices, hw.classified, hw.declared he, fun d hd hn services => ?_⟩
  refine ⟨?create, ?wired, ?missing, ?around⟩
  case create  => exact hw.create_eq hr he hd hn services
  case wired   => exact fun s s' wiring h f hf => Definition.wireBy_eq_ok (hr d hd) h hf
  case missing => exact fun _ _ => Container.get_of_not_found
  case around  => exact fun a j inner => ⟨_, fetched_fetches services inner, rfl⟩

-- A desk whose lamp is nowhere to be found, and an aspect that has a candle instead.
def desk : Definition Unit :=
  (Definition.make (.plain "shop.Desk") fun _ => return .unit).addField (.plain "lamp" "shop.Lamp")

def lighting : Aspect Unit :=
  (Aspect.make (.plain "shop.Lighting") fun _ => return .unit).around
    ((Method.advice "light").around "autowire(shop.Lamp)") .unit fun _ _ => return .text "candle"

def litDesk : Blueprint Unit where
  registry := ⟨[desk, lighting.component], by decide +kernel⟩
  catalog := Catalog.empty.insert lighting.name lighting.advices
  config := .default

theorem litDesk_assembled : litDesk.Assembled := by
  have hd : Blueprint.empty.component desk =
      .ok ⟨⟨[desk], by decide +kernel⟩, .empty, .default⟩ := rfl
  have hl : aspect ⟨⟨[desk], by decide +kernel⟩, .empty, .default⟩ lighting = .ok litDesk := rfl
  exact .aspect _ _ _ (.component _ _ _ .empty hd) hl

def elsewhere (name : String) : Definition Unit :=
  .make (.plain name) fun _ => return .unit

theorem litDesk_builds :
    ∃ w s', litDesk.build elsewhere 1 (.start ()) = (.ok (.ok w), s') := by
  have hc : ((litDesk.build elsewhere 1 (.start ())).1.toOption.bind (·.toOption)).isSome := by
    decide +kernel
  have ⟨w, hw⟩ := Option.isSome_iff_exists.mp hc
  have ⟨r, hb, hr⟩ := Option.bind_eq_some_iff.mp hw
  cases Outcome.toOption_eq_some.mp hr
  exact ⟨w, _, Prod.ext (Outcome.toOption_eq_some.mp hb) rfl⟩

theorem injection_nests_desk :
    ∃ w s' advices, litDesk.build elsewhere 1 (.start ()) = (.ok (.ok w), s') ∧
      litDesk.advices (litDesk.unfinished elsewhere) = .ok advices ∧
      ∀ services, w.container.create services desk = Act.whileCreating desk.name
        (desk.wireBy (w.container.injection services advices desk.type) >>=
          w.table.assemble services desk) := by
  have ⟨w, s', hb⟩ := litDesk_builds
  have ⟨advices, ha, _, hd⟩ := injection_nests litDesk_assembled rfl hb
  have hm : desk ∈ litDesk.registry.definitions := List.mem_cons_self
  exact ⟨w, s', advices, hb, ha, fun services => (hd desk hm (by decide) services).left⟩

end Blueprint
end Interpose
