import Mathlib.Data.List.Forall2
import Interpose.Declaration.Component
import Interpose.Proofs.Weaving.Wiring

namespace Interpose

open Outcome

variable {σ : Type} {value : Field → Act σ Value} {fs : List Field} {w w' : Wiring}
variable {s s' : Session σ}

-- Every field that has been filled is wired, and what was wired before still is. Names may repeat.
theorem wireEach_isSome (h : wireEach value fs w s = (.ok w', s')) :
    (∀ name, (w.get? name).isSome → (w'.get? name).isSome) ∧
      ∀ f ∈ fs, (w'.get? f.name).isSome := by
  induction fs generalizing w s
  case nil =>
    have ⟨he, _⟩ := Step.pure_eq_ok.mp h
    exact ⟨fun _ hw => he ▸ hw, nofun⟩
  case cons f fs hi =>
    rw [wireEach_cons] at h
    have ⟨v, t, _, h⟩ := Step.bind_eq_ok.mp h
    have ⟨hkept, hfilled⟩ := hi h
    have hself : ((w.insert f.name v).get? f.name).isSome := by rw [w.get?_insert_self]; rfl
    constructor
    case left =>
      intro name hw
      apply hkept
      by_cases hn : name = f.name
      case pos => exact hn ▸ hself
      case neg => rw [w.get?_insert_of_ne v hn]; exact hw
    case right => exact List.forall_mem_cons.mpr ⟨hkept f.name hself, hfilled⟩

theorem Kind.cast_eq_error {α : Type} {k : Kind α} {v : Value} {e : ContainerError}
    (h : k.cast v = .error e) : e = .typeMismatch k.name := by
  unfold Kind.cast at h
  split at h
  case h_1 => cases h
  case h_2 =>
    unfold Kind.exactly at h
    split at h <;> cases h
    rfl
  case h_3 => cases h; rfl

namespace Wiring

variable {name : String} {e : ContainerError}

theorem value_congr (h : w.get? name = w'.get? name) : w.value name = w'.value name := by
  rw [value, value, h]

theorem isSome_of_value {v : Value} (h : w.value name = .ok v) : (w.get? name).isSome := by
  cases hn : w.get? name <;> rw [value, hn] at h
  case none => cases h
  case some => rfl

theorem value_of_isSome (h : (w.get? name).isSome) : ∃ v, w.value name = .ok v := by
  obtain ⟨v, hv⟩ := Option.isSome_iff_exists.mp h
  exact ⟨v, by rw [value, hv]⟩

-- Of a field that has been wired only the kind can be wrong.
theorem get_eq_error {α : Type} {k : Kind α} (hn : (w.get? name).isSome)
    (h : w.get k name = .error e) : e = .typeMismatch k.name := by
  obtain ⟨v, hv⟩ := value_of_isSome hn
  rw [get, hv] at h
  exact Kind.cast_eq_error h

theorem component_eq_error (hn : (w.get? name).isSome) (h : w.component name = .error e) :
    e = .typeMismatch "ComponentRef" := by
  obtain ⟨v, hv⟩ := value_of_isSome hn
  unfold component at h
  rw [hv] at h
  dsimp only [bind, Except.bind] at h
  split at h <;> cases h
  rfl

end Wiring

theorem Field.isInjected_plain (name fieldType : String) :
    (Field.plain name fieldType).isInjected = true := by
  change (!(Modifiers.ofList [.priv]).has .static && !(Modifiers.ofList [.priv]).has .final) = true
  decide

namespace Declaration

open Source

variable {t : TypeItem} {d : DerivedComponent} {f : Source.Field} {g : DerivedField}
variable {as : List Source.Field} {gs : List DerivedField} {kindOf : TypeExpr → Kind Value}
variable {componentName : TypeExpr → String}

def Autowired (f : Source.Field) : Prop :=
  ∃ a ∈ f.attributes, a.isNamed "autowired" = true

instance : DecidablePred Autowired :=
  fun f => inferInstanceAs (Decidable (∃ a ∈ f.attributes, a.isNamed "autowired" = true))

-- What is derived from a field. What is described by its name is also looked up by it.
inductive Derives : Source.Field → DerivedField → Prop
  | plain {f : Source.Field} (h : ¬Autowired f) : Derives f ⟨f.name, none, .byDefault⟩
  | byHandle {f : Source.Field} {inner : TypeExpr} {type : DescribedType} (h : Autowired f)
    (hs : f.type.sharedInner = some inner) (hn : inner.isNamed "ComponentRef" = true) :
    Derives f ⟨f.name, some ⟨f.name, type⟩, .byHandle f.name⟩
  | byInstance {f : Source.Field} {inner : TypeExpr} {type : DescribedType} (h : Autowired f)
    (hs : f.type.sharedInner = some inner) (hn : inner.isNamed "ComponentRef" = false) :
    Derives f ⟨f.name, some ⟨f.name, type⟩, .byInstance f.name inner⟩

-- What a field of a new instance starts with: an instance or a handle that its name is wired to, or
-- its default.
inductive Starts (kindOf : TypeExpr → Kind Value) (w : Wiring) (f : Source.Field) :
    Option Value → Prop
  | byDefault (h : ¬Autowired f) : Starts kindOf w f none
  | byHandle {inner : TypeExpr} {c : Handle} (h : Autowired f)
    (hs : f.type.sharedInner = some inner) (hn : inner.isNamed "ComponentRef" = true)
    (hw : w.component f.name = .ok c) : Starts kindOf w f (some c.toValue)
  | byInstance {inner : TypeExpr} {v : Value} (h : Autowired f)
    (hs : f.type.sharedInner = some inner) (hn : inner.isNamed "ComponentRef" = false)
    (hw : w.get (kindOf inner) f.name = .ok v) : Starts kindOf w f (some v)

theorem derives_of_deriveField (h : deriveField f = .ok g) : Derives f g := by
  rw [deriveField] at h
  split at h
  case h_1 hn =>
    cases h
    refine .plain fun ⟨a, ha, hna⟩ => ?_
    exact List.find?_eq_none.mp hn a ha hna
  case h_2 a ha =>
    have hna := List.find?_some (p := fun a : Attribute => a.isNamed "autowired") ha
    have hf : Autowired f := ⟨a, List.mem_of_find?_eq_some ha, hna⟩
    obtain ⟨given, _, h⟩ := bind_eq_ok.mp h
    split at h
    case h_1 => cases h
    case h_2 inner hs =>
      obtain ⟨type, _, h⟩ := bind_eq_ok.mp h
      cases h
      rw [startOf]
      cases hn : inner.isNamed "ComponentRef"
      case true  => exact .byHandle hf hs hn
      case false => exact .byInstance hf hs hn

theorem derives_of_ofItem (h : DerivedComponent.ofItem t = .ok d) :
    ∃ fs, t.shape = .named fs ∧ List.Forall₂ Derives fs d.fields := by
  unfold DerivedComponent.ofItem at h
  cases hg : t.generic <;> rw [hg] at h
  case true  => cases h
  case false =>
    simp only [Bool.false_eq_true, if_false, bind_eq_ok, pure_eq_ok] at h
    obtain ⟨_, _, fs, hfs, gs, hgs, _, _, _, _, _, _, _, _, rfl⟩ := h
    refine ⟨fs, ?_, (mapM_eq_ok.mp hgs).imp fun f g => derives_of_deriveField⟩
    cases hs : t.shape <;> rw [hs] at hfs <;> cases hfs
    rfl

theorem starts_of_run {v : Option Value} (h : Derives f g) (hv : g.start.run kindOf w = .ok v) :
    Starts kindOf w f v := by
  cases h
  case plain h =>
    cases hv
    exact .byDefault h
  case byHandle h hs hn =>
    obtain ⟨c, hc, rfl⟩ := map_eq_ok.mp hv
    exact .byHandle h hs hn hc
  case byInstance h hs hn =>
    obtain ⟨c, hc, rfl⟩ := map_eq_ok.mp hv
    exact .byInstance h hs hn hc

theorem Starts.run_eq {v : Option Value} (hv : Starts kindOf w f v) (h : Derives f g) :
    g.start.run kindOf w = .ok v := by
  cases h
  case plain h =>
    cases hv
    case byDefault           => rfl
    case byHandle h' _ _ _   => exact absurd h' h
    case byInstance h' _ _ _ => exact absurd h' h
  case byHandle h hs hn =>
    cases hv
    case byDefault h'         => exact absurd h h'
    case byHandle _ _ hw      => exact map_eq_ok.mpr ⟨_, hw, rfl⟩
    case byInstance hs' hn' _ =>
      cases hs.symm.trans hs'
      cases hn.symm.trans hn'
  case byInstance h hs hn =>
    cases hv
    case byDefault h'       => exact absurd h h'
    case byHandle hs' hn' _ =>
      cases hs.symm.trans hs'
      cases hn.symm.trans hn'
    case byInstance hs' _ hw =>
      cases hs.symm.trans hs'
      exact map_eq_ok.mpr ⟨_, hw, rfl⟩

theorem run_eq_ok {v : Option Value} (h : Derives f g) :
    g.start.run kindOf w = .ok v ↔ Starts kindOf w f v :=
  ⟨starts_of_run h, fun hv => hv.run_eq h⟩

-- Only its own name is looked up for a field.
theorem run_congr (h : Derives f g) (hw : Autowired f → w.get? f.name = w'.get? f.name) :
    g.start.run kindOf w = g.start.run kindOf w' := by
  cases h
  case plain => rfl
  case byHandle h _ _   => simp only [Start.run, Wiring.component, Wiring.value_congr (hw h)]
  case byInstance h _ _ => simp only [Start.run, Wiring.get, Wiring.value_congr (hw h)]

theorem run_eq_error {e : ContainerError} (h : Derives f g)
    (hw : Autowired f → (w.get? f.name).isSome) (he : g.start.run kindOf w = .error e) :
    ∃ kind, e = .typeMismatch kind := by
  cases h
  case plain => cases he
  case byHandle h _ _ =>
    rw [Start.run] at he
    cases hc : w.component f.name <;> rw [hc] at he <;> cases he
    exact ⟨_, Wiring.component_eq_error (hw h) hc⟩
  case byInstance inner _ h _ _ =>
    rw [Start.run] at he
    cases hc : w.get (kindOf inner) f.name <;> rw [hc] at he <;> cases he
    exact ⟨_, Wiring.get_eq_error (hw h) hc⟩

theorem Starts.isSome {v : Option Value} (hs : Starts kindOf w f v) (h : Autowired f) :
    (w.get? f.name).isSome := by
  cases hs
  case byDefault h'       => exact absurd h h'
  case byHandle _ _ hw   =>
    obtain ⟨v, hv, _⟩ := bind_eq_ok.mp hw
    exact Wiring.isSome_of_value hv
  case byInstance _ _ hw =>
    obtain ⟨v, hv, _⟩ := bind_eq_ok.mp hw
    exact Wiring.isSome_of_value hv

theorem described_fields (h : List.Forall₂ Derives as gs) :
    List.Forall₂ (fun f (r : DescribedField) => r.key = f.name) (as.filter (Autowired ·))
      (gs.filterMap (·.described)) := by
  induction h
  case nil => exact .nil
  case cons f g as gs hd _ hi =>
    cases hd
    case plain h =>
      rw [List.filter_cons_of_neg (by simpa using h)]
      exact hi
    case byHandle h _ _ =>
      rw [List.filter_cons_of_pos (by simpa using h)]
      exact .cons rfl hi
    case byInstance h _ _ =>
      rw [List.filter_cons_of_pos (by simpa using h)]
      exact .cons rfl hi

theorem description_fields (componentName : TypeExpr → String)
    (h : List.Forall₂ Derives as d.fields) :
    List.Forall₂ (fun f r => r.name = f.name ∧ r.isInjected = true) (as.filter (Autowired ·))
      (d.description componentName).fields :=
  List.forall₂_map_right_iff.mpr <| (described_fields h).imp fun _ _ hk =>
    ⟨hk, Field.isInjected_plain ..⟩

section Allocation

theorem entry_eq_ok {v : String × Option Value} (h : Derives f g) :
    (do return (g.name, ← g.start.run kindOf w)) = (.ok v : Except ContainerError _) ↔
      v.1 = f.name ∧ Starts kindOf w f v.2 := by
  have hn : g.name = f.name := by cases h <;> rfl
  rw [← run_eq_ok h, ← hn]
  simp only [bind_eq_ok, pure_eq_ok]
  constructor
  case mp  => rintro ⟨_, hv, rfl⟩; exact ⟨rfl, hv⟩
  case mpr => intro h; exact ⟨v.2, h.right, Prod.ext h.left.symm rfl⟩

theorem allocate_eq_ok {values : List (String × Option Value)}
    (h : List.Forall₂ Derives as d.fields) : d.allocate kindOf w = .ok values ↔
      List.Forall₂ (fun f v => v.1 = f.name ∧ Starts kindOf w f v.2) as values := by
  rw [DerivedComponent.allocate, mapM_eq_ok]
  generalize d.fields = gs at h
  induction h generalizing values
  case nil => simp only [List.forall₂_nil_left_iff]
  case cons f g as gs hd _ hi =>
    simp only [List.forall₂_cons_left_iff, hi, entry_eq_ok hd]

theorem allocate_congr (h : List.Forall₂ Derives as d.fields)
    (hw : ∀ f ∈ as, Autowired f → w.get? f.name = w'.get? f.name) :
    d.allocate kindOf w = d.allocate kindOf w' := by
  rw [DerivedComponent.allocate, DerivedComponent.allocate]
  generalize d.fields = gs at h
  induction h
  case nil => rfl
  case cons f g as gs hd _ hi =>
    have ⟨hf, hw⟩ := List.forall_mem_cons.mp hw
    rw [List.mapM_cons, List.mapM_cons, run_congr hd hf, hi hw]

theorem allocate_eq_error {e : ContainerError} (h : List.Forall₂ Derives as d.fields)
    (hw : ∀ f ∈ as, Autowired f → (w.get? f.name).isSome) (he : d.allocate kindOf w = .error e) :
    ∃ kind, e = .typeMismatch kind := by
  obtain ⟨g, hg, he⟩ := mapM_eq_error he
  obtain ⟨f, hf, hd⟩ := exists_of_mem h.flip g hg
  cases hi : g.start.run kindOf w <;> rw [hi] at he <;> cases he
  exact run_eq_error hd (hw f hf) hi

end Allocation

theorem define_eq {α : Type} (d : DerivedComponent) (componentName : TypeExpr → String)
    (kindOf : TypeExpr → Kind Value) (k : Kind α)
    (make : List (String × Option Value) → Action σ Value) (init : String → α → Action σ Unit) :
    (d.define componentName kindOf k make init).type.fields =
        (d.description componentName).fields ∧
      ∀ w, (d.define componentName kindOf k make init).allocator w =
        Behaviour.check (d.allocate kindOf w) >>= make := by
  unfold DerivedComponent.define
  cases d.init <;> cases d.lazy <;> cases d.scope <;> exact ⟨rfl, fun _ => rfl⟩

-- The description of a component and its allocation are about the same fields, which are those of
-- the type that are autowired.
structure Agrees (as : List Source.Field) (d : DerivedComponent) : Prop where
  described : ∀ componentName, List.Forall₂ (fun f r => r.name = f.name ∧ r.isInjected = true)
    (as.filter (Autowired ·)) (d.description componentName).fields
  allocated : ∀ kindOf w values, d.allocate kindOf w = .ok values ↔
    List.Forall₂ (fun f v => v.1 = f.name ∧ Starts kindOf w f v.2) as values
  defined   : ∀ {σ α : Type} componentName kindOf (k : Kind α)
    (make : List (String × Option Value) → Action σ Value) (init : String → α → Action σ Unit),
    (d.define componentName kindOf k make init).type.fields =
        (d.description componentName).fields ∧
      ∀ w, (d.define componentName kindOf k make init).allocator w =
        Behaviour.check (d.allocate kindOf w) >>= make
  -- Nothing else is looked up, and nothing of it can be missing.
  reads     : ∀ kindOf w w', (∀ f ∈ as, Autowired f → w.get? f.name = w'.get? f.name) →
    d.allocate kindOf w = d.allocate kindOf w'
  needs     : ∀ kindOf w values, d.allocate kindOf w = .ok values →
    ∀ f ∈ as, Autowired f → (w.get? f.name).isSome

theorem agrees_of_derives (h : List.Forall₂ Derives as d.fields) : Agrees as d where
  described componentName := description_fields componentName h
  allocated kindOf w values := allocate_eq_ok h
  defined := define_eq d
  reads kindOf w w' := allocate_congr h
  needs kindOf w values hv f hf ha := by
    obtain ⟨v, _, _, hs⟩ := exists_of_mem ((allocate_eq_ok h).mp hv) f hf
    exact hs.isSome ha

-- A wiring that the described fields have been filled into has something for each field that is
-- looked up.
theorem isSome_of_wire {D : Definition σ} {services : Services σ} {providers : Providers σ}
    (hd : D.type.fields = (d.description componentName).fields)
    (ha : List.Forall₂ Derives as d.fields) (hw : D.wire services providers s = (.ok w, s')) :
    ∀ f ∈ as, Autowired f → (w.get? f.name).isSome := by
  intro f hf hfa
  obtain ⟨r, hr, hn, hi⟩ := exists_of_mem (description_fields componentName ha) f
    (List.mem_filter.mpr ⟨hf, decide_eq_true hfa⟩)
  have hm : r ∈ D.type.injectedFields := List.mem_filter.mpr ⟨hd ▸ hr, hi⟩
  exact hn ▸ (wireEach_isSome hw).right r hm

-- The description of a component and its allocation agree, so an instance whose described fields
-- have been filled can always be allocated, unless something is of the wrong kind.
theorem derivation_agrees (h : DerivedComponent.ofItem t = .ok d) :
    ∃ as, t.shape = .named as ∧ Agrees as d ∧
      ∀ (σ : Type) (D : Definition σ) (componentName : TypeExpr → String),
        D.type.fields = (d.description componentName).fields →
          ∀ services providers s w s', D.wire services providers s = (.ok w, s') →
            ∀ kindOf name, d.allocate kindOf w ≠ .error (.fieldNotWired name) := by
  obtain ⟨as, hs, ha⟩ := derives_of_ofItem h
  refine ⟨as, hs, agrees_of_derives ha, ?_⟩
  intro σ D componentName hd services providers s w s' hw kindOf name he
  obtain ⟨kind, he⟩ := allocate_eq_error ha (isSome_of_wire hd ha hw) he
  cases he

def auditorSource : String :=
  "struct Auditor \x7b #[autowired] ledger: Arc<Ledger>, " ++
    "#[autowired(\"shop.Journal\")] journal: Arc<ComponentRef>, count: u32 \x7d"

theorem derivation_agrees_auditor : ∃ t d as, TypeItem.parse auditorSource = .ok t ∧
    DerivedComponent.ofItem t = .ok d ∧ t.shape = .named as ∧ Agrees as d ∧
      (d.description TypeExpr.text).fields.map (fun r => (r.name, r.fieldType)) =
        [("ledger", "Ledger"), ("journal", "shop.Journal")] := by
  have hp : ((TypeItem.parse auditorSource).toOption.bind fun t =>
      (DerivedComponent.ofItem t).toOption.map fun d =>
        (d.description TypeExpr.text).fields.map fun r => (r.name, r.fieldType)) =
        some [("ledger", "Ledger"), ("journal", "shop.Journal")] := by
    decide +kernel
  simp only [Option.bind_eq_some_iff, Option.map_eq_some_iff, toOption_eq_some] at hp
  obtain ⟨t, ht, d, hd, hp⟩ := hp
  obtain ⟨as, hs, h⟩ := derivation_agrees hd
  exact ⟨t, d, as, ht, hd, hs, h.left, hp⟩

end Declaration
end Interpose
