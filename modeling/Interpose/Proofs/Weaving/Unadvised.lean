import Interpose.Proofs.Weaving.Synthesis

namespace Interpose

variable {σ : Type} {l : Layer σ} {providers : Providers σ} {r : Registry σ} {d : Definition σ}
variable {t : Proxies σ} {p : Proxy σ} {m : Method} {method : String}

-- A component has a constructor of this name.
def Definition.constructs (d : Definition σ) (method : String) : Bool :=
  d.type.methods.any fun m => m.name == method && m.isConstructor

-- Names tell methods apart, so a name is that of a constructor if one method of this name is.
theorem Definition.constructs_name (hd : d.Regular) (hm : m ∈ d.type.methods) :
    d.constructs m.name = m.isConstructor := by
  have hf := Keyed.filter_eq_singleton hd.methods hm
  have ha : d.constructs m.name =
      (d.type.methods.filter fun m' => m'.name = m.name).any (·.isConstructor) := by
    simp [constructs, List.any_filter, beq_eq_decide]
  rw [ha, hf, List.any_cons, List.any_nil, Bool.or_false]

namespace Proxy

-- The code that a proxy has for a method without advices.
theorem lookup_passages_unadvised (h : ofDefinition l providers d = .ok p) (hd : d.Regular)
    (ht : l.types.get? d.name = some d.type) (hm : m ∈ d.type.methods)
    (hn : l.onMethod ⟨d.type, m⟩ = none) :
    p.passages.lookup m.name =
      if m.isConstructor then none else (d.body? m.name).map .direct := by
  rw [lookup_passages h hd ht hm, passage?_eq, Method.isConstructor]
  cases m.kind
  case allocation     => rfl
  case initialization => rfl
  case method =>
    simp only [passageTo, hn, MethodJoint.name]
    cases d.body? m.name <;> rfl

end Proxy

namespace Proxies

variable (services : Services σ) (caller : Option String) (target : Value) (args : List Value)

-- A call of a method without advices, declared or not, comes to the same with and without a proxy,
-- unless it is the call of a constructor that has code, which a proxy never finds.
theorem dispatch_unadvised (hr : r.Assembled) (hd : d ∈ r.definitions)
    (hl : l.types.get? d.name = some d.type) (ht : ofLayer l r providers = .ok t)
    (hp : t.get? d.name = some p)
    (hn : ∀ m ∈ d.type.methods, m.name = method → l.onMethod ⟨d.type, m⟩ = none) :
    p.dispatch services caller target method args =
      if d.constructs method && (d.body? method).isSome then
        Act.raise (.methodNotFound d.name method)
      else (d.dispatch target method args).runPlain services := by
  have ho := ofDefinition_of_get? ht hd hp
  have hs := Proxy.synthesized ho hl
  have hreg := hr.regular d hd
  by_cases hm : ∃ m ∈ d.type.methods, m.name = method
  case pos =>
    have ⟨m, hmem, he⟩ := hm
    subst he
    have hq := Proxy.lookup_passages_unadvised ho hreg hl hmem (hn m hmem rfl)
    rw [Definition.constructs_name hreg hmem]
    simp only [Proxy.dispatch, Definition.dispatch, hq, hs.name]
    cases m.isConstructor <;> cases d.body? m.name <;> rfl
  case neg =>
    have hm : ∀ m ∈ d.type.methods, m.name ≠ method := fun m hd hn => hm ⟨m, hd, hn⟩
    have hb := (hr.definitions hd).body?_eq_none hm
    have hq := hs.lookup_passages_none hm
    simp only [Proxy.dispatch, Definition.dispatch, hq, hb, hs.name, Option.isSome_none,
      Bool.and_false, Bool.false_eq_true, ↓reduceIte]
    rfl

end Proxies

-- A drawer whose initialization can also be called.
def drawer : Definition Unit :=
  ((Definition.make (.plain "shop.Drawer") fun _ => return .unit).addBody .initialization
    fun _ _ => return .text "opened").addBody (.plain "count") fun _ _ => return .int 0

def drawers : Registry Unit := ⟨[drawer], by decide +kernel⟩

theorem drawers_assembled : drawers.Assembled := by
  have hd : drawer.Assembled := .body _ _ _ <| .body _ _ _ <| .make _ _
  have hr : Registry.empty.register drawer = .ok drawers := rfl
  exact .register _ _ _ .empty hd hr

-- An advice that watches the methods of a name.
def watch (name : String) : Advice Unit where
  aspect := "shop.Audit"
  method := "watch"
  pointcut := .leaf .execution (.execution ⟨.parse "*", none, .exact name, [.rest]⟩)
  provider := ⟨"shop.Audit", .result .unit⟩
  body := fun _ jp => jp.proceed
  privilege := lowestPrivilege

-- The layer of an advice on the allocation alone.
def drawerLayer : Layer Unit := .cover drawers.hierarchy [watch allocationName]

def noProviders : Providers Unit := fun typeName => .error (.componentNotFound typeName)

def noServices : Services Unit where
  get typeName := Act.raise (.componentNotFound typeName)
  invoke h _ method _ := Act.raise (.methodNotFound h.typeName method)

namespace Proxies

theorem drawer_proxied : ∃ t p, ofLayer drawerLayer drawers noProviders = .ok t ∧
    t.get? drawer.name = some p := by
  have hc :
      ((ofLayer drawerLayer drawers noProviders).toOption.bind (·.get? drawer.name)).isSome := by
    decide +kernel
  have ⟨p, hp⟩ := Option.isSome_iff_exists.mp hc
  have ⟨t, ht, hg⟩ := Option.bind_eq_some_iff.mp hp
  exact ⟨t, p, Outcome.toOption_eq_some.mp ht, hg⟩

theorem dispatch_unadvised_count : ∃ t p, ofLayer drawerLayer drawers noProviders = .ok t ∧
    t.get? drawer.name = some p ∧ ∀ services caller target args,
      p.dispatch services caller target "count" args =
        (drawer.dispatch target "count" args).runPlain services := by
  have ⟨t, p, ht, hp⟩ := drawer_proxied
  have hd : drawer ∈ drawers.definitions := List.mem_cons_self
  have hl : drawerLayer.types.get? drawer.name = some drawer.type := by decide +kernel
  have hn : ∀ m ∈ drawer.type.methods, m.name = "count" →
      drawerLayer.onMethod ⟨drawer.type, m⟩ = none := by
    have hc : drawer.type.methods.all fun m =>
        m.name != "count" || (drawerLayer.onMethod ⟨drawer.type, m⟩).isNone := by decide +kernel
    intro m hm hn
    simpa [hn] using List.all_eq_true.mp hc m hm
  refine ⟨t, p, ht, hp, fun services caller target args => ?_⟩
  exact dispatch_unadvised services caller target args drawers_assembled hd hl ht hp hn

-- The initialization has no advice, and yet the proxy does not find the code that is there.
theorem drawer_init_hidden : drawers.Assembled ∧
    Layer.weave drawers.hierarchy [watch allocationName] .default = .ok drawerLayer ∧
    drawerLayer.onMethod ⟨drawer.type, .initialization⟩ = none ∧
    ∃ t p, ofLayer drawerLayer drawers noProviders = .ok t ∧ t.get? drawer.name = some p ∧
      p.dispatch noServices none .unit initializationName [] ≠
        (drawer.dispatch .unit initializationName []).runPlain noServices := by
  have ho : drawerLayer.onMethod ⟨drawer.type, .initialization⟩ = none :=
    Option.isNone_iff_eq_none.mp (by decide +kernel)
  have hc : ((ofLayer drawerLayer drawers noProviders).toOption.bind (·.get? drawer.name)).all
      fun p => !(p.dispatch noServices none .unit initializationName [] (.start ())).1.isOk := by
    decide +kernel
  have ⟨t, p, ht, hp⟩ := drawer_proxied
  refine ⟨drawers_assembled, rfl, ho, t, p, ht, hp, fun he => ?_⟩
  have hf :
      (p.dispatch noServices none .unit initializationName [] (.start ())).1.isOk = false := by
    simpa [ht, hp, Except.toOption] using hc
  rw [he] at hf
  cases hf

end Proxies
end Interpose
