import Interpose.Proofs.Weaving.Wiring

namespace Interpose

variable {σ : Type}

structure Making (σ : Type) where
  fields : List Field
  -- Finds the value of a field.
  value : Field → Act σ Value
  -- Makes an instance of the values of its fields.
  allocate : Wiring → Act σ Value
  -- Initializes an instance, if there is anything to do.
  prepare : Option (Value → Act σ Unit)

inductive Work where
  | resolution (f : Field)
  | allocation (w : Wiring)
  | initialization (target : Value)

namespace Making

-- Fields are filled in order, up to the first one that gets no value.
inductive Fills (m : Making σ) : List Field → Wiring → Session σ → List Work →
    Except Halt Wiring × Session σ → Prop
  | nil (w : Wiring) (s : Session σ) : Fills m [] w s [] (.ok w, s)
  | halts (f : Field) (fs : List Field) (w : Wiring) (s s' : Session σ) (halt : Halt) :
    m.value f s = (.error halt, s') → Fills m (f :: fs) w s [.resolution f] (.error halt, s')
  | cons (f : Field) (fs : List Field) (w : Wiring) (s t : Session σ) (v : Value)
      (works : List Work) (r : Except Halt Wiring × Session σ) :
    m.value f s = (.ok v, t) → Fills m fs (w.insert f.name v) t works r →
    Fills m (f :: fs) w s (.resolution f :: works) r

-- The last work on an instance.
def finish (m : Making σ) (target : Value) : Act σ Unit :=
  match m.prepare with
  | some prepare => prepare target
  | none => pure ()

def finishing (m : Making σ) (target : Value) : List Work :=
  if m.prepare.isSome then [.initialization target] else []

-- An instance is made step by step, up to the first step that fails.
inductive Creates (m : Making σ) (s : Session σ) : List Work → Except Halt Value × Session σ → Prop
  | unfilled (works : List Work) (halt : Halt) (s' : Session σ) :
    Fills m m.fields .empty s works (.error halt, s') → Creates m s works (.error halt, s')
  | unallocated (works : List Work) (w : Wiring) (t s' : Session σ) (halt : Halt) :
    Fills m m.fields .empty s works (.ok w, t) → m.allocate w t = (.error halt, s') →
    Creates m s (works ++ [.allocation w]) (.error halt, s')
  | unfinished (works : List Work) (w : Wiring) (t t' s' : Session σ) (target : Value)
      (halt : Halt) :
    Fills m m.fields .empty s works (.ok w, t) → m.allocate w t = (.ok target, t') →
    m.finish target t' = (.error halt, s') →
    Creates m s (works ++ .allocation w :: m.finishing target) (.error halt, s')
  | finished (works : List Work) (w : Wiring) (t t' s' : Session σ) (target : Value) :
    Fills m m.fields .empty s works (.ok w, t) → m.allocate w t = (.ok target, t') →
    m.finish target t' = (.ok (), s') →
    Creates m s (works ++ .allocation w :: m.finishing target) (.ok target, s')

variable {m m' : Making σ} {fs : List Field} {w : Wiring} {s : Session σ} {works : List Work}
variable {P : Session σ → Prop}

def run (m : Making σ) : Act σ Value := do
  let w ← wireEach m.value m.fields .empty
  let target ← m.allocate w
  m.finish target
  return target

theorem fills_wireEach (m : Making σ) (fs : List Field) (w : Wiring) (s : Session σ) :
    ∃ works, m.Fills fs w s works (wireEach m.value fs w s) := by
  induction fs generalizing w s
  case nil => exact ⟨[], .nil w s⟩
  case cons f fs hi =>
    rw [wireEach_cons]
    rcases h : m.value f s with ⟨_ | v, t⟩
    case error =>
      rw [Step.bind_of_error h]
      exact ⟨_, .halts _ _ _ _ _ _ h⟩
    case ok =>
      rw [Step.bind_of_ok h]
      have ⟨works, hf⟩ := hi (w.insert f.name v) t
      exact ⟨_, .cons _ _ _ _ _ _ _ _ h hf⟩

-- All that is done to make an instance are these steps.
theorem creates_run (m : Making σ) (s : Session σ) : ∃ works, m.Creates s works (m.run s) := by
  have ⟨works, hf⟩ := m.fills_wireEach m.fields .empty s
  rw [run]
  rcases hw : wireEach m.value m.fields .empty s with ⟨_ | w, t⟩ <;> rw [hw] at hf
  case error =>
    rw [Step.bind_of_error hw]
    exact ⟨_, .unfilled _ _ _ hf⟩
  case ok =>
    rw [Step.bind_of_ok hw]
    rcases ha : m.allocate w t with ⟨_ | target, t'⟩
    case error =>
      rw [Step.bind_of_error ha]
      exact ⟨_, .unallocated _ _ _ _ _ hf ha⟩
    case ok =>
      rw [Step.bind_of_ok ha]
      rcases hp : m.finish target t' with ⟨_ | _, s'⟩
      case error =>
        rw [Step.bind_of_error hp]
        exact ⟨_, .unfinished _ _ _ _ _ _ _ hf ha hp⟩
      case ok =>
        rw [Step.bind_of_ok hp]
        exact ⟨_, .finished _ _ _ _ _ _ hf ha hp⟩

theorem Fills.wireEach_eq {r : Except Halt Wiring × Session σ} (h : m.Fills fs w s works r) :
    wireEach m.value fs w s = r := by
  induction h
  case nil => rfl
  case halts hv => rw [wireEach_cons, Step.bind_of_error hv]
  case cons hv _ hi => rw [wireEach_cons, Step.bind_of_ok hv, hi]

-- Nothing else can come of them.
theorem Creates.run_eq {r : Except Halt Value × Session σ} (h : m.Creates s works r) :
    m.run s = r := by
  cases h
  case unfilled hf => rw [run, Step.bind_of_error hf.wireEach_eq]
  case unallocated hf ha =>
    rw [run, Step.bind_of_ok hf.wireEach_eq, Step.bind_of_error ha]
  case unfinished hf ha hn =>
    rw [run, Step.bind_of_ok hf.wireEach_eq, Step.bind_of_ok ha, Step.bind_of_error hn]
  case finished hf ha hn =>
    rw [run, Step.bind_of_ok hf.wireEach_eq, Step.bind_of_ok ha, Step.bind_of_ok hn]
    rfl

-- The steps of one making are those of the other wherever something holds.
structure Agrees (P : Session σ → Prop) (m m' : Making σ) : Prop where
  fields   : m'.fields = m.fields
  value    : ∀ f ∈ m.fields, ∀ s, P s → m'.value f s = m.value f s
  allocate : ∀ w s, P s → m'.allocate w s = m.allocate w s
  finish   : ∀ target s, P s → m'.finish target s = m.finish target s
  prepare  : m'.prepare.isSome = m.prepare.isSome

-- What the steps leave as it is.
structure Keeps (P : Session σ → Prop) (m : Making σ) : Prop where
  value    : ∀ f s, P s → P (m.value f s).2
  allocate : ∀ w s, P s → P (m.allocate w s).2

namespace Agrees

variable (h : Agrees P m m') (hk : Keeps P m) (hs : P s)
include h hk hs

theorem fills {r : Except Halt Wiring × Session σ} (hf : m.Fills fs w s works r)
    (hfs : fs ⊆ m.fields) : m'.Fills fs w s works r ∧ P r.2 := by
  induction hf
  case nil w s => exact ⟨.nil w s, hs⟩
  case halts f fs w s s' halt hv =>
    have hm : f ∈ m.fields := hfs List.mem_cons_self
    have hp := hk.value f s hs
    rw [hv] at hp
    exact ⟨.halts _ _ _ _ _ _ ((h.value f hm s hs).trans hv), hp⟩
  case cons f fs w s t v works r hv _ hi =>
    have ⟨hm, hfs⟩ := List.cons_subset.mp hfs
    have hp := hk.value f s hs
    rw [hv] at hp
    have ⟨hf, hr⟩ := hi hp hfs
    exact ⟨.cons _ _ _ _ _ _ _ _ ((h.value f hm s hs).trans hv) hf, hr⟩

-- The same is made by the same work.
theorem creates {r : Except Halt Value × Session σ} (hc : m.Creates s works r) :
    m'.Creates s works r := by
  have hf : ∀ {works r}, m.Fills m.fields .empty s works r →
      m'.Fills m'.fields .empty s works r ∧ P r.2 := by
    intro works r hf
    rw [h.fields]
    exact h.fills hk hs hf (List.Subset.refl _)
  have hl : ∀ target, m.finishing target = m'.finishing target := by
    intro target
    rw [finishing, finishing, h.prepare]
  have ha : ∀ {w t r}, P t → m.allocate w t = r → m'.allocate w t = r ∧ P r.2 := by
    intro w t r ht ha
    have hp := hk.allocate w t ht
    rw [ha] at hp
    exact ⟨(h.allocate w t ht).trans ha, hp⟩
  cases hc
  case unfilled hm => exact .unfilled _ _ _ (hf hm).left
  case unallocated hm hw =>
    have ⟨hm, ht⟩ := hf hm
    exact .unallocated _ _ _ _ _ hm (ha ht hw).left
  case unfinished target halt hm hw hn =>
    have ⟨hm, ht⟩ := hf hm
    have ⟨hw, ht⟩ := ha ht hw
    rw [hl]
    exact .unfinished _ _ _ _ _ _ _ hm hw <| (h.finish target _ ht).trans hn
  case finished target hm hw hn =>
    have ⟨hm, ht⟩ := hf hm
    have ⟨hw, ht⟩ := ha ht hw
    rw [hl]
    exact .finished _ _ _ _ _ _ hm hw <| (h.finish target _ ht).trans hn

end Agrees
end Making

-- The handle of an instance, if it has been made.
def handing (name : String) (route : Route) (r : Except Halt Value × Session σ) :
    Except Halt Handle × Session σ :=
  match r with
  | (.ok target, s) => Act.newHandle name target route s
  | (.error halt, s) => (.error halt, s)

theorem Making.handing_run (m : Making σ) (name : String) (route : Route) (s : Session σ) :
    (wireEach m.value m.fields .empty >>= fun w => do
      let target ← m.allocate w
      m.finish target
      Act.newHandle name target route) s = handing name route (m.run s) := by
  have hr : m.run >>= (fun target => Act.newHandle name target route) =
      wireEach m.value m.fields .empty >>= fun w => m.allocate w >>= fun target =>
        m.finish target >>= fun _ => Act.newHandle name target route := by
    simp only [run, bind_assoc, pure_bind]
  rw [← hr]
  rcases h : m.run s with ⟨_ | target, t⟩
  case error => rw [Step.bind_of_error h]; rfl
  case ok    => rw [Step.bind_of_ok h]; rfl

variable {services : Services σ} {providers : Providers σ} {d : Definition σ} {p : Proxy σ}

def Definition.making (services : Services σ) (providers : Providers σ) (d : Definition σ) :
    Making σ where
  fields := d.type.injectedFields
  value f := providers.get services f.fieldType
  allocate w := (d.allocator w).runPlain services
  prepare := d.initializer.map fun init target => (init target).runPlain services

theorem Definition.instantiate_eq_handing (s : Session σ) : d.instantiate services providers s =
    handing d.name .direct ((d.making services providers).run s) := by
  have hp : ∀ target, d.prepare services target =
      (d.making services providers).finish target := by
    intro target
    rw [prepare, Making.finish, making]
    cases d.initializer <;> rfl
  rw [← Making.handing_run, d.instantiate_eq]
  refine congrFun (bind_congr fun w => bind_congr fun target => ?_) s
  rw [hp]

def Proxy.making (services : Services σ) (providers : Providers σ) (p : Proxy σ) : Making σ where
  fields := p.definition.type.injectedFields
  value := p.fieldValue services providers
  allocate := p.allocate services
  prepare :=
    match p.initChain with
    | some chain => some fun target => do discard (chain.invoke services ⟨none, some target, []⟩)
    | none => p.definition.initializer.map fun init target => (init target).runPlain services

theorem Proxy.instantiate_eq_handing (s : Session σ) : p.instantiate services providers s =
    handing p.name .woven ((p.making services providers).run s) := by
  have hp : ∀ target, p.prepare services target =
      (p.making services providers).finish target := by
    intro target
    rw [prepare, Making.finish, making]
    cases p.initChain <;> cases p.definition.initializer <;> rfl
  rw [← Making.handing_run, p.instantiate_eq]
  refine congrFun (bind_congr fun w => bind_congr fun target => ?_) s
  rw [hp]

-- The steps of a component, by its proxy if it has one.
def Proxies.making (services : Services σ) (providers : Providers σ) (t : Proxies σ)
    (d : Definition σ) : Making σ :=
  match t.get? d.name with
  | some p => p.making services providers
  | none => d.making services providers

theorem Proxies.instantiate_eq_handing (services : Services σ) (providers : Providers σ)
    (t : Proxies σ) (d : Definition σ) (s : Session σ) : ∃ route,
      t.instantiate services providers d s =
        handing d.name route ((t.making services providers d).run s) := by
  rw [instantiate, making]
  cases hp : t.get? d.name
  case none => exact ⟨_, d.instantiate_eq_handing s⟩
  case some p =>
    have hn : p.name = d.name := beq_iff_eq.mp (List.find?_some hp :)
    exact ⟨_, hn ▸ p.instantiate_eq_handing s⟩

end Interpose
