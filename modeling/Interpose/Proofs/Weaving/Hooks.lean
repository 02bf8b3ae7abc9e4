import Interpose.Proofs.Container.Dependency
import Interpose.Proofs.Container.Presence
import Interpose.Proofs.Weaving.Injection

namespace Interpose

open Outcome

variable {σ : Type} {services : Services σ} {providers : Providers σ} {s s' : Session σ}
variable {l : Layer σ} {r : Registry σ} {t : Proxies σ} {d : Definition σ} {p : Pointcut}

namespace Container

variable {c : Container σ} {typeName : String} {depth : Nat}

-- A component that is asked for comes from its provider, as long as the container is there.
theorem get_eq_providers (hs : s.dropped = false) :
    (do return (← (c.services (depth + 1)).get typeName).toValue : Act σ Value) s =
      c.providers.get (c.services (depth + 1)) typeName s := by
  rw [providers_get_eq hs, map_eq_pure_bind]
  exact Step.bind_congr_left (getWhileAlive_of_alive hs)

end Container

-- The fields of the types of a registry are those of its components.
theorem Registry.exists_of_mem_fieldJoints {j : FieldJoint}
    (hj : j ∈ r.hierarchy.types.flatMap (·.fieldJoints)) :
    ∃ (d : Definition σ) (f : Field), d ∈ r.definitions ∧ f ∈ d.type.fields ∧ j = ⟨d.type, f⟩ := by
  rw [types_hierarchy] at hj
  have ⟨_, ht, hj⟩ := List.mem_flatMap.mp hj
  have ⟨d, hd, he⟩ := List.mem_map.mp ht
  subst he
  have ⟨f, hf, he⟩ := List.mem_map.mp hj
  exact ⟨d, f, hd, hf, he.symm⟩

theorem Proxy.isSome_wireChain? {j : FieldJoint} {c : Option (String × AutowireChain σ)}
    (hc : injectionChain l providers j = .ok c) :
    (wireChain? l providers j).isSome = (l.onField j).isSome := by
  cases ho : l.onField j
  case some =>
    have ⟨_, _, he⟩ := injectionChain_of_some ho hc
    rw [wireChain?, hc, he]
    rfl
  case none =>
    rw [wireChain?, injectionChain_of_none ho]
    rfl

namespace Proxies

-- The chain of a field, if its type has a proxy and the field has advices.
def injectionChain? (t : Proxies σ) (f : FieldJoint) : Option (AutowireChain σ) :=
  (t.get? f.declaring.name).bind (·.injectionChain? f.name)

-- What an instance gets for a field.
def fieldValue (services : Services σ) (providers : Providers σ) (t : Proxies σ)
    (f : FieldJoint) : Act σ Value :=
  match t.injectionChain? f with
  | some chain => chain.resolve services
  | none => providers.get services f.field.fieldType

theorem wire_eq_fieldValue (h : ofLayer l r providers = .ok t) (hd : d ∈ r.definitions)
    (providers' : Providers σ) : t.wire services providers' d =
      d.wireBy fun f => t.fieldValue services providers' ⟨d.type, f⟩ := by
  have hc : ∀ f, t.injectionChain? ⟨d.type, f⟩ = (t.get? d.name).bind (·.injectionChain? f.name) :=
    fun _ => rfl
  simp only [wire, fieldValue, hc]
  cases hp : t.get? d.name
  case none => exact Definition.wire_eq
  case some p =>
    rw [Definition.wireBy, ← (Proxy.ofDefinition_eq_ok (ofDefinition_of_get? h hd hp)).left]
    rfl

-- A field has a chain just if there are advices at it.
theorem isSome_injectionChain? (hr : r.Regular) (ht : ofLayer l r providers = .ok t)
    (hl : l.types.get? d.name = some d.type) (hw : l.Tells r.hierarchy)
    (hd : d ∈ r.definitions) {f : Field} (hf : f ∈ d.type.fields) :
    (t.injectionChain? ⟨d.type, f⟩).isSome = (l.onField ⟨d.type, f⟩).isSome := by
  change ((t.get? d.name).bind (·.injectionChain? f.name)).isSome = _
  cases hp : l.hasProxy d.name
  case false =>
    have ⟨_, hn⟩ := hw.of_not_hasProxy d.type hp
    rw [get?_of_not_hasProxy ht hp, hn f]
    rfl
  case true =>
    have ⟨p, hg, ho⟩ := get?_of_hasProxy ht hd hp
    have hs := Proxy.synthesized ho hl
    have ⟨c, hc⟩ := hs.injects ⟨d.type, f⟩ (List.mem_map_of_mem hf)
    rw [hg, Option.bind_some, hs.injectionChain? (hr d hd) hf, Option.isSome_map]
    exact Proxy.isSome_wireChain? hc

end Proxies

theorem Joint.name_declaring (j : Joint) : j.declaring.name = j.rank.2.1 := by
  cases j <;> rfl

namespace Hook

variable {c : Container σ} {f : FieldJoint} {j : MethodJoint} {h : Hook σ} {depth : Nat}

-- The hook that leads to a field.
def atField (t : Proxies σ) (f : FieldJoint) : Hook σ :=
  .field f.field.fieldType (t.injectionChain? f)

theorem invoke_atField (args : List Value) (hs : s.dropped = false) :
    (atField t f).invoke (c.services (depth + 1)) args s =
      t.fieldValue (c.services (depth + 1)) c.providers f s := by
  rw [atField, Proxies.fieldValue]
  cases t.injectionChain? f
  case some => rfl
  case none => exact Container.get_eq_providers hs

theorem invoke_atField_of_dropped (args : List Value) (hs : s.dropped = true)
    (hc : t.injectionChain? f = none) :
    (atField t f).invoke (c.services (depth + 1)) args s =
      (.error (.failed (.container .containerDropped)), s) := by
  rw [atField, hc]
  exact Step.bind_of_error (Container.getWhileAlive_of_dropped hs)

theorem mem_methodJoints {types : Hierarchy} {type : TypeDescription} :
    j ∈ methodJoints types p type ↔ j ∈ type.methodJoints ∧ j.method.kind = .method ∧
      j.method.isAdvisable = true ∧ p.isExecution = true ∧
      p.selectsMethod types none j = true := by
  simp [methodJoints, Method.isConstructor, Pointcut.selectsMethod, and_assoc]

theorem mem_fieldJoints {types : Hierarchy} {type : TypeDescription} :
    f ∈ fieldJoints types p type ↔ f ∈ type.fieldJoints ∧ f.field.isInjected = true ∧
      p.isAutowire = true ∧ p.selectsField types f = true := by
  simp [fieldJoints, and_assoc]

theorem mem_candidates {types : Hierarchy} {type : TypeDescription} :
    type ∈ Layer.candidates types ↔ type ∈ types.types ∧ type.isAspect = false := by
  simp [Layer.candidates]

-- The hooks of a pointcut to the members of one type.
def ofType (l : Layer σ) (t : Proxies σ) (p : Pointcut) (type : TypeDescription) :
    List (Joint × Hook σ) :=
  (methodJoints l.types p type).map (fun j => (.method j, .method type.name j.name)) ++
  (fieldJoints l.types p type).map fun f =>
    (.field f, .field f.field.fieldType ((t.get? type.name).bind (·.injectionChain? f.name)))

section OfType

variable {type : TypeDescription} {e : Joint × Hook σ}

theorem method_mem_ofType : (.method j, h) ∈ ofType l t p type ↔
    j ∈ methodJoints l.types p type ∧ h = .method j.declaring.name j.name := by
  rw [ofType, List.mem_append, List.mem_map, List.mem_map]
  constructor
  case mp =>
    rintro (⟨j, hj, he⟩ | ⟨_, _, he⟩) <;> cases he
    have hd := TypeDescription.declaring_of_mem_methodJoints (mem_methodJoints.mp hj).left
    exact ⟨hj, hd ▸ rfl⟩
  case mpr =>
    intro ⟨hj, he⟩
    have hd := TypeDescription.declaring_of_mem_methodJoints (mem_methodJoints.mp hj).left
    exact .inl ⟨j, hj, hd ▸ he ▸ rfl⟩

theorem field_mem_ofType : (.field f, h) ∈ ofType l t p type ↔
    f ∈ fieldJoints l.types p type ∧ h = atField t f := by
  rw [ofType, List.mem_append, List.mem_map, List.mem_map]
  constructor
  case mp =>
    rintro (⟨_, _, he⟩ | ⟨f, hf, he⟩) <;> cases he
    have hd := TypeDescription.declaring_of_mem_fieldJoints (mem_fieldJoints.mp hf).left
    exact ⟨hf, hd ▸ rfl⟩
  case mpr =>
    intro ⟨hf, he⟩
    have hd := TypeDescription.declaring_of_mem_fieldJoints (mem_fieldJoints.mp hf).left
    exact .inr ⟨f, hf, hd ▸ he ▸ rfl⟩

theorem declaring_of_mem_ofType (he : e ∈ ofType l t p type) : e.1.declaring = type := by
  rcases e with ⟨_ | _, h⟩
  case method j =>
    have ⟨hj, _⟩ := method_mem_ofType.mp he
    exact TypeDescription.declaring_of_mem_methodJoints (mem_methodJoints.mp hj).left
  case field f =>
    have ⟨hf, _⟩ := field_mem_ofType.mp he
    exact TypeDescription.declaring_of_mem_fieldJoints (mem_fieldJoints.mp hf).left

end OfType

theorem method_mem_ofPointcut : (.method j, h) ∈ ofPointcut l t p ↔
    j ∈ l.types.types.flatMap (·.methodJoints) ∧ j.declaring.isAspect = false ∧
    j.method.kind = .method ∧ j.method.isAdvisable = true ∧ p.isExecution = true ∧
    p.selectsMethod l.types none j = true ∧ h = .method j.declaring.name j.name := by
  change _ ∈ (Layer.candidates l.types).flatMap (ofType l t p) ↔ _
  simp only [List.mem_flatMap, method_mem_ofType, mem_methodJoints, mem_candidates]
  constructor
  case mp =>
    intro ⟨type, ⟨ht, ha⟩, ⟨hj, hk, hi, hx, hs⟩, he⟩
    have hd := TypeDescription.declaring_of_mem_methodJoints hj
    exact ⟨⟨type, ht, hj⟩, hd ▸ ha, hk, hi, hx, hs, he⟩
  case mpr =>
    intro ⟨⟨type, ht, hj⟩, ha, hk, hi, hx, hs, he⟩
    have hd := TypeDescription.declaring_of_mem_methodJoints hj
    exact ⟨type, ⟨ht, hd ▸ ha⟩, ⟨hj, hk, hi, hx, hs⟩, he⟩

theorem field_mem_ofPointcut : (.field f, h) ∈ ofPointcut l t p ↔
    f ∈ l.types.types.flatMap (·.fieldJoints) ∧ f.declaring.isAspect = false ∧
    f.field.isInjected = true ∧ p.isAutowire = true ∧ p.selectsField l.types f = true ∧
    h = atField t f := by
  change _ ∈ (Layer.candidates l.types).flatMap (ofType l t p) ↔ _
  simp only [List.mem_flatMap, field_mem_ofType, mem_fieldJoints, mem_candidates]
  constructor
  case mp =>
    intro ⟨type, ⟨ht, ha⟩, ⟨hf, hi, hx, hs⟩, he⟩
    have hd := TypeDescription.declaring_of_mem_fieldJoints hf
    exact ⟨⟨type, ht, hf⟩, hd ▸ ha, hi, hx, hs, he⟩
  case mpr =>
    intro ⟨⟨type, ht, hf⟩, ha, hi, hx, hs, he⟩
    have hd := TypeDescription.declaring_of_mem_fieldJoints hf
    exact ⟨type, ⟨ht, hd ▸ ha⟩, ⟨hf, hi, hx, hs⟩, he⟩

-- The join points of one type have different ranks, as have those of different types.
theorem nodup_rank_ofPointcut (hm : ∀ t ∈ l.types.types, (t.methods.map (·.name)).Nodup)
    (hf : ∀ t ∈ l.types.types, (t.fields.map (·.name)).Nodup) :
    ((ofPointcut l t p).map (·.1.rank)).Nodup := by
  change (((Layer.candidates l.types).flatMap (ofType l t p)).map (·.1.rank)).Nodup
  rw [List.map_flatMap, List.nodup_flatMap]
  have hn : (Layer.candidates l.types).Pairwise fun a b => a.name ≠ b.name :=
    List.Pairwise.filter _ (List.pairwise_map.mp l.types.nodup)
  constructor
  case left =>
    intro type ht
    have ⟨ht, _⟩ := mem_candidates.mp ht
    have hm : ((methodJoints l.types p type).map MethodJoint.key).Nodup :=
      (TypeDescription.nodup_key_methodJoints (hm type ht)).sublist (List.filter_sublist.map _)
    have hf : ((fieldJoints l.types p type).map FieldJoint.key).Nodup :=
      (TypeDescription.nodup_key_fieldJoints (hf type ht)).sublist (List.filter_sublist.map _)
    rw [ofType, List.map_append, List.map_map, List.map_map, List.nodup_append]
    refine ⟨?methods, ?fields, ?apart⟩
    case methods => exact List.Nodup.of_map Prod.snd (by rw [List.map_map]; exact hm)
    case fields  => exact List.Nodup.of_map Prod.snd (by rw [List.map_map]; exact hf)
    case apart =>
      intro a ha b hb he
      have ⟨_, _, ha⟩ := List.mem_map.mp ha
      have ⟨_, _, hb⟩ := List.mem_map.mp hb
      cases ha.trans (he.trans hb.symm)
  case right =>
    refine hn.imp fun hne k hk hk' => hne ?_
    have ⟨e, he, hr⟩ := List.mem_map.mp hk
    have ⟨e', he', hr'⟩ := List.mem_map.mp hk'
    have hd := declaring_of_mem_ofType he
    have hd' := declaring_of_mem_ofType he'
    rw [← hd, ← hd', e.1.name_declaring, e'.1.name_declaring, hr, hr']

end Hook

namespace Blueprint

variable {b : Blueprint σ} {outside : String → Definition σ} {advices : List (Advice σ)}
variable {layer : Layer σ} {w : WovenContainer σ} {depth : Nat}
variable {template expression : String} {args : List String}

theorem types_of_build (h : b.build outside depth s = (.ok (.ok w), s')) :
    w.layer.types = b.registry.hierarchy := by
  have ⟨w', hw, he⟩ := build_eq_ok h
  have ⟨_, ha⟩ := weave_eq_ok hw
  subst he
  exact Layer.types_weave (l := w'.layer) ha.layered

namespace Weaves

-- A field that is filled has advices just if some pointcut selects it.
theorem isSome_onField (hw : b.Weaves outside advices layer w) (hr : b.registry.Regular)
    {f : FieldJoint} (hf : f ∈ b.registry.hierarchy.types.flatMap (·.fieldJoints))
    (ha : f.declaring.isAspect = false) (hi : f.field.isInjected = true) :
    (layer.onField f).isSome = true ↔
      ∃ a ∈ advices, a.pointcut.selectsField b.registry.hierarchy f = true := by
  cases he : b.config.enabled
  case false =>
    have hc := hw.classified
    have hl := hw.layered
    rw [Blueprint.advices, he] at hc
    rw [Layer.weave, he] at hl
    cases hc
    cases hl
    exact iff_of_false Bool.false_ne_true (by simp)
  case true =>
    have hs : ((Layer.cover b.registry.hierarchy advices).onField f).isSome = true ↔
        advices.filter (Layer.attachesField b.registry.hierarchy f) ≠ [] := by
      rw [← Option.isSome_map, Layer.onField_cover (fun _ => hr.fields) hf]
      split
      case isTrue hn  => simp [hn]
      case isFalse hn => simp [hn]
    rw [Layer.weave_eq_ok he hw.layered, hs, ne_eq, List.filter_eq_nil_iff]
    simp [Layer.attachesField, ha, hi]

end Weaves

-- The hooks of a template lead to all members that its pointcut is sure to select and nowhere else.
-- Instances are made of the values of their fields, and the hook of a field does just what is done
-- to find such a value, as long as the container is there: it goes through the advices if some
-- select the field, and else to the component of its type.
theorem hooks_exact (ha : b.Assembled) (hb : b.build outside depth s = (.ok (.ok w), s'))
    (ht : Template.fill template args = .ok expression) (hp : Pointcut.parse expression = .ok p) :
    ∃ hooks advices, w.hooks template args = .ok hooks ∧
    b.advices (b.unfinished outside) = .ok advices ∧
    (hooks.map (·.1.rank)).Nodup ∧
    (∀ j h, (.method j, h) ∈ hooks ↔
      j ∈ b.registry.hierarchy.types.flatMap (·.methodJoints) ∧ j.declaring.isAspect = false ∧
      j.method.kind = .method ∧ (∀ k ∈ Method.shields, j.method.modifiers.has k = false) ∧
      p.isExecution = true ∧ p.selectsMethod b.registry.hierarchy none j = true ∧
      h = .method j.declaring.name j.name) ∧
    (∀ f h, (.field f, h) ∈ hooks ↔
      f ∈ b.registry.hierarchy.types.flatMap (·.fieldJoints) ∧ f.declaring.isAspect = false ∧
      (f.field.modifiers.has .static = false ∧ f.field.modifiers.has .final = false) ∧
      p.isAutowire = true ∧ p.selectsField b.registry.hierarchy f = true ∧
      h = .atField w.table f) ∧
    (∀ d ∈ b.registry.definitions, ∀ services, w.container.create services d =
      Act.whileCreating d.name
        ((d.wireBy fun f => w.table.fieldValue services w.container.providers ⟨d.type, f⟩) >>=
          w.table.assemble services d)) ∧
    ∀ f h, (.field f, h) ∈ hooks →
      ((w.table.injectionChain? f).isSome = true ↔
        ∃ a ∈ advices, a.pointcut.selectsField b.registry.hierarchy f = true) ∧
      ∀ room vs u,
        (u.dropped = false → h.invoke (w.container.services (room + 1)) vs u =
          w.table.fieldValue (w.container.services (room + 1)) w.container.providers f u) ∧
        (u.dropped = true → w.table.injectionChain? f = none →
          h.invoke (w.container.services (room + 1)) vs u =
            (.error (.failed (.container .containerDropped)), u)) := by
  have ⟨advices, layer, hw⟩ := weaves_of_build hb
  have hl := types_of_build hb
  have hr := ha.regular
  have hh : w.hooks template args = .ok (Hook.ofPointcut w.layer w.table p) := by
    rw [WovenContainer.hooks, Hook.ofTemplate, ht]
    change (Pointcut.parse expression).mapError _ >>= _ = _
    rw [hp]
    rfl
  refine ⟨_, advices, hh, hw.classified, ?nodup, fun j h => ?methods, fun f h => ?fields, ?create,
    fun f h hm => ⟨?advised, fun room vs u => ?invoke⟩⟩
  case nodup =>
    exact Hook.nodup_rank_ofPointcut (hl ▸ fun _ => hr.methods) (hl ▸ fun _ => hr.fields)
  case methods => rw [Hook.method_mem_ofPointcut, hl, Method.isAdvisable_iff]
  case fields => rw [Hook.field_mem_ofPointcut, hl, Field.isInjected_iff]
  case create =>
    intro d hd services
    rw [hw.create_eq_instantiate, Proxies.instantiate_eq, Proxies.wire_eq_fieldValue hw.proxied hd]
  case advised =>
    have ⟨hf, hfa, hi, _⟩ := Hook.field_mem_ofPointcut.mp hm
    rw [hl] at hf
    have ⟨d, fd, hd, hfd, he⟩ := Registry.exists_of_mem_fieldJoints hf
    subst he
    rw [← hw.isSome_onField hr hf hfa hi, Proxies.isSome_injectionChain? hr hw.proxied
      (Layer.get?_of_weave hw.layered hd) (Layer.tells_of_weave hw.layered) hd hfd]
  case invoke =>
    have ⟨_, _, _, _, _, he⟩ := Hook.field_mem_ofPointcut.mp hm
    rw [he]
    exact ⟨Hook.invoke_atField vs, Hook.invoke_atField_of_dropped vs⟩

def deskLamp : FieldJoint := ⟨desk.type, .plain "lamp" "shop.Lamp"⟩

theorem hooks_exact_desk : ∃ w s' hooks,
    litDesk.build elsewhere 1 (.start ()) = (.ok (.ok w), s') ∧
    w.hooks "autowire(%s)" ["shop.Lamp"] = .ok hooks ∧
    (.field deskLamp, .atField w.table deskLamp) ∈ hooks ∧
    (w.table.injectionChain? deskLamp).isSome = true ∧
    ∀ room vs u, u.dropped = false →
      (Hook.atField w.table deskLamp).invoke (w.container.services (room + 1)) vs u =
        w.table.fieldValue (w.container.services (room + 1)) w.container.providers deskLamp u := by
  have ⟨w, s', hb⟩ := litDesk_builds
  have ht : Template.fill "autowire(%s)" ["shop.Lamp"] = .ok "autowire(shop.Lamp)" := rfl
  have hs : (Pointcut.parse "autowire(shop.Lamp)").toOption.any
      fun p => p.isAutowire && p.selectsField litDesk.registry.hierarchy deskLamp := by
    decide +kernel
  have ⟨p, hp, hs⟩ := any_toOption.mp hs
  have ⟨hx, hs⟩ := Bool.and_eq_true_iff.mp hs
  have ⟨hooks, advices, hh, ha, _, _, hfields, _, hinvoke⟩ :=
    hooks_exact litDesk_assembled hb ht hp
  have hd : desk ∈ litDesk.registry.definitions := List.mem_cons_self
  have hf := Registry.mem_fieldJoints_hierarchy hd List.mem_cons_self
  have hk := (hfields deskLamp _).mpr ⟨hf, by decide, ⟨rfl, rfl⟩, hx, hs, rfl⟩
  have ⟨hadvised, hi⟩ := hinvoke _ _ hk
  refine ⟨w, s', hooks, hb, hh, hk, hadvised.mpr ?_, fun room vs u => (hi room vs u).left⟩
  have hl : (litDesk.advices (litDesk.unfinished elsewhere)).toOption.any
      (·.any (·.pointcut.selectsField litDesk.registry.hierarchy deskLamp)) := by
    decide +kernel
  have ⟨advices', ha', hl⟩ := any_toOption.mp hl
  cases ha.symm.trans ha'
  exact List.any_eq_true.mp hl

end Blueprint
end Interpose
