import Interpose.Declaration.Aspect
import Interpose.Proofs.Weaving.Growth
import Interpose.Proofs.Weaving.Judgement

namespace Interpose.Declaration

open Source Interpose.Outcome

variable {f f' : Function} {a : Attribute} {as : List Attribute} {s s' : AdviceAttributes}
variable {advice : Option DeclaredAdvice} {b : Block} {d : DeclaredAspect} {given : List Token}

section Attributes

-- The attribute is only there for the advice.
def isTaken (a : Attribute) : Bool := a.isNamed "around" || a.isNamed "privilege"

-- The function has an expression.
def Advises (f : Function) : Prop := ∃ a ∈ f.attributes, a.isNamed "around" = true

instance : DecidablePred Advises :=
  fun f => inferInstanceAs (Decidable (∃ a ∈ f.attributes, a.isNamed "around" = true))

-- What has been taken from attributes, starting with what had been taken before.
structure Takes (as : List Attribute) (s s' : AdviceAttributes) : Prop where
  kept        : s'.kept = s.kept ++ as.filter (fun a => !isTaken a)
  expressions : ∃ ls, s'.expressions = s.expressions ++ ls ∧
    List.Forall₂ (fun a l => a.read Reader.textLiteral = .ok l) (as.filter (·.isNamed "around")) ls
  privilege   : ∃ ls, s'.privilege.toList = s.privilege.toList ++ ls ∧
    List.Forall₂ (fun a l => a.read Reader.integerLiteral = .ok l)
      (as.filter (·.isNamed "privilege")) ls

theorem isNamed_privilege_eq_false (h : a.isNamed "around" = true) :
    a.isNamed "privilege" = false := by
  rw [Attribute.isNamed, eq_of_beq h]
  decide

theorem takes_of_add (h : s.add a = .ok s') : Takes [a] s s' := by
  unfold AdviceAttributes.add at h
  split at h
  case isTrue ha =>
    obtain ⟨l, hl, h⟩ := bind_eq_ok.mp h
    cases h
    have hp := isNamed_privilege_eq_false ha
    have hl := eq_ok_of_mapError hl
    refine ⟨?_, ⟨[l], rfl, ?_⟩, ⟨[], by simp, ?_⟩⟩
    · simp [isTaken, ha]
    · simpa [ha] using hl
    · simp [hp]
  case isFalse ha =>
    rw [Bool.not_eq_true] at ha
    split at h
    case isTrue hp =>
      cases hs : s.privilege <;> simp only [hs] at h
      case some => cases h
      case none =>
        obtain ⟨l, hl, h⟩ := bind_eq_ok.mp h
        cases h
        have hl := eq_ok_of_mapError hl
        refine ⟨?_, ⟨[], by simp, ?_⟩, ⟨[l], by simp [hs], ?_⟩⟩
        · simp [isTaken, ha, hp]
        · simp [ha]
        · simpa [hp] using hl
    case isFalse hp =>
      rw [Bool.not_eq_true] at hp
      cases h
      refine ⟨?_, ⟨[], by simp, ?_⟩, ⟨[], by simp, ?_⟩⟩
      · simp [isTaken, ha, hp]
      · simp [ha]
      · simp [hp]

theorem Takes.append {bs : List Attribute} {t : AdviceAttributes} (h : Takes as s s')
    (h' : Takes bs s' t) : Takes (as ++ bs) s t := by
  obtain ⟨es, he, hes⟩ := h.expressions
  obtain ⟨es', he', hes'⟩ := h'.expressions
  obtain ⟨ls, hl, hls⟩ := h.privilege
  obtain ⟨ls', hl', hls'⟩ := h'.privilege
  refine ⟨?_, ⟨es ++ es', ?_, ?_⟩, ⟨ls ++ ls', ?_, ?_⟩⟩
  · rw [h'.kept, h.kept, List.append_assoc, List.filter_append]
  · rw [he', he, List.append_assoc]
  · rw [List.filter_append]
    exact List.rel_append hes hes'
  · rw [hl', hl, List.append_assoc]
  · rw [List.filter_append]
    exact List.rel_append hls hls'

theorem takes_of_foldlM (h : as.foldlM AdviceAttributes.add s = .ok s') : Takes as s s' := by
  induction as generalizing s
  case nil =>
    cases h
    exact ⟨by simp, ⟨[], by simp⟩, ⟨[], by simp⟩⟩
  case cons a as hi =>
    obtain ⟨t, ht, h⟩ := foldlM_cons_eq_ok.mp h
    exact (takes_of_add ht).append (hi h)

-- The function without the attributes that are there for the advice.
def stripped (f : Function) : Function :=
  { f with attributes := f.attributes.filter fun a => !isTaken a }

def strippedMember : Member → Member
  | .function f => .function (stripped f)
  | .other tokens => .other tokens

-- The advice is that of the function: it has the name, all expressions in order, and the privilege
-- if there is one.
structure AdvisesBy (f : Function) (d : DeclaredAdvice) : Prop where
  name        : d.name = f.name
  expressions : List.Forall₂ (fun a l => a.read Reader.textLiteral = .ok l)
    (f.attributes.filter (·.isNamed "around")) d.expressions
  privilege   : List.Forall₂ (fun a l => a.read Reader.integerLiteral = .ok l)
    (f.attributes.filter (·.isNamed "privilege")) d.privilege.toList

theorem filter_eq_nil_iff_not_advises :
    f.attributes.filter (·.isNamed "around") = [] ↔ ¬Advises f := by
  simp only [List.filter_eq_nil_iff, Advises, not_exists, not_and]

theorem AdvisesBy.expressions_ne_nil {d : DeclaredAdvice} (h : AdvisesBy f d) (ha : Advises f) :
    d.expressions ≠ [] := by
  intro hn
  exact filter_eq_nil_iff_not_advises.mp (List.forall₂_nil_right_iff.mp (hn ▸ h.expressions)) ha

-- What becomes of a function: an advice just if it has an expression.
theorem takeAdvice_eq_ok (h : takeAdvice f = .ok (f', advice)) :
    f' = stripped f ∧ ((¬Advises f ∧ advice = none) ∨
      Advises f ∧ ∃ d, AdvisesBy f d ∧ advice = some d) := by
  obtain ⟨s, hs, h⟩ := bind_eq_ok.mp h
  have ⟨hk, ⟨es, he, hes⟩, ⟨ls, hl, hls⟩⟩ := takes_of_foldlM hs
  rw [List.nil_append] at hk he
  rw [Option.toList_none, List.nil_append] at hl
  have hf : { f with attributes := s.kept } = stripped f := by rw [hk]; rfl
  dsimp only at h
  split at h
  case isTrue hn =>
    have hn := filter_eq_nil_iff_not_advises.mp <|
      List.forall₂_nil_right_iff.mp (List.isEmpty_iff.mp hn ▸ he ▸ hes)
    split at h <;> cases h
    exact ⟨hf, .inl ⟨hn, rfl⟩⟩
  case isFalse hn =>
    have hn : Advises f := by
      by_contra ha
      rw [filter_eq_nil_iff_not_advises.mpr ha, List.forall₂_nil_left_iff] at hes
      exact hn (List.isEmpty_iff.mpr (he.trans hes))
    split at h <;> cases h
    exact ⟨hf, .inr ⟨hn, _, ⟨rfl, he ▸ hes, hl ▸ hls⟩, rfl⟩⟩

theorem takeMember_eq_ok {m m' : Member} (h : takeMember m = .ok (m', advice)) :
    m' = strippedMember m ∧
      List.Forall₂ AdvisesBy (m.function?.toList.filter (Advises ·)) advice.toList := by
  cases m
  case other =>
    cases h
    exact ⟨rfl, .nil⟩
  case function f =>
    obtain ⟨⟨f', advice'⟩, hf, h⟩ := bind_eq_ok.mp h
    cases h
    obtain ⟨rfl, ⟨ha, rfl⟩ | ⟨ha, d, hd, rfl⟩⟩ := takeAdvice_eq_ok hf
    case inl => exact ⟨rfl, by simp [Member.function?, ha]⟩
    case inr => exact ⟨rfl, by simpa [Member.function?, ha] using hd⟩

theorem filterMap_cons_eq {α β : Type} (g : α → Option β) (x : α) (xs : List α) :
    (x :: xs).filterMap g = (g x).toList ++ xs.filterMap g := by
  cases h : g x <;> simp [h]

-- What becomes of the members of a block, in order.
theorem takeMembers_eq_ok {ms : List Member} {rs : List (Member × Option DeclaredAdvice)}
    (h : ms.mapM takeMember = .ok rs) : rs.map (·.1) = ms.map strippedMember ∧
      List.Forall₂ AdvisesBy ((ms.filterMap Member.function?).filter (Advises ·))
        (rs.filterMap (·.2)) := by
  replace h := mapM_eq_ok.mp h
  induction h
  case nil => exact ⟨rfl, .nil⟩
  case cons m r ms rs hm _ hi =>
    obtain ⟨m', advice⟩ := r
    have ⟨hs, ha⟩ := takeMember_eq_ok hm
    have ⟨hss, has⟩ := hi
    rw [List.map_cons, List.map_cons, hs, hss, filterMap_cons_eq, filterMap_cons_eq,
      List.filter_append]
    exact ⟨rfl, List.rel_append ha has⟩

-- What is left of a block, and the advices that its functions become.
theorem declareAspect_eq_ok (h : declareAspect given b = .ok d) :
    d.block = { b with members := b.members.map strippedMember } ∧
      List.Forall₂ AdvisesBy (b.functions.filter (Advises ·)) d.advices := by
  unfold declareAspect at h
  cases hb : b.ofTrait || b.generic <;> rw [hb] at h
  case true  => cases h
  case false =>
    simp only [Bool.false_eq_true, if_false, bind_eq_ok] at h
    obtain ⟨_, _, rs, hrs, h⟩ := h
    split at h <;> cases h
    obtain ⟨hs, ha⟩ := takeMembers_eq_ok hrs
    exact ⟨congrArg _ hs, ha⟩

end Attributes

section Definition

variable {σ α : Type} {code : String → α → (jp : JoinPoint) → Behaviour σ jp.requests Value}
variable {k : Kind α} {base : Definition σ} {r : Registry σ} {d : Advising} {e : DeclaredAdvice}

-- The annotations that a type gets that becomes an aspect.
def aspectNotes (t : TypeDescription) (d : Advising) : List Annotation :=
  (if t.isAspect then [] else [⟨ aspectAnnotation, []⟩]) ++
    (d.privilege.map fun level => ⟨ privilegeAnnotation, [toString level.value]⟩).toList

theorem component_foldl_around (A : Aspect σ) (ds : List DeclaredAdvice) :
    (ds.foldl (fun A a => A.around a.description k (code a.name)) A).component =
      { A.component with type := { A.component.type with
          methods := A.component.type.methods ++ ds.map (·.description) } } := by
  induction ds generalizing A
  case nil          => rw [List.foldl_nil, List.map_nil, List.append_nil]
  case cons a ds hi =>
    rw [List.foldl_cons, hi, List.map_cons]
    simp only [Aspect.around, Definition.describeMethod, TypeDescription.addMethod,
      List.append_assoc, List.singleton_append]

-- The aspect is the component with these annotations and with the advices behind its methods.
theorem define_component (d : Advising) (base : Definition σ) (k : Kind α)
    (code : String → α → (jp : JoinPoint) → Behaviour σ jp.requests Value) :
    (d.define base k code).component = { base with type := { base.type with
      annotations := base.type.annotations ++ aspectNotes base.type d
      methods := base.type.methods ++ d.advices.map (·.description) } } := by
  have ht : base.type.asAspect = { base.type with annotations := base.type.annotations ++
      if base.type.isAspect then [] else [⟨ aspectAnnotation, []⟩] } := by
    unfold TypeDescription.asAspect
    split
    case isTrue  => rw [List.append_nil]
    case isFalse => rfl
  rw [Advising.define, component_foldl_around, aspectNotes]
  cases d.privilege
  case none       => simp [Aspect.ofComponent, ht]
  case some level =>
    simp [Aspect.ofComponent, Aspect.withPrivilege, Definition.annotate, TypeDescription.annotate,
      ht]

theorem foldl_around (m : Method) (ls : List TextLiteral) :
    ls.foldl (fun m l => m.around l.value) m =
      { m with annotations :=
          m.annotations ++ ls.map fun l => ⟨ aroundAnnotation, [l.value]⟩ } := by
  induction ls generalizing m
  case nil          => rw [List.foldl_nil, List.map_nil, List.append_nil]
  case cons l ls hi =>
    rw [List.foldl_cons, hi, List.map_cons]
    simp only [Method.around, Method.annotate, List.append_assoc, List.singleton_append]

theorem description_eq (e : DeclaredAdvice) : e.description =
    { Method.advice e.name with
      annotations := (e.expressions.map fun l => ⟨ aroundAnnotation, [l.value]⟩) ++
        (e.privilege.map fun level => ⟨ privilegeAnnotation, [toString level.value]⟩).toList } := by
  rw [DeclaredAdvice.description]
  cases e.privilege
  case none       => simp [foldl_around, Method.advice, Method.plain]
  case some level =>
    simp [foldl_around, Method.advice, Method.plain, Method.privilege, Method.annotate]

theorem name_description (e : DeclaredAdvice) : e.description.name = e.name := by
  rw [description_eq]
  rfl

theorem isConstructor_description (e : DeclaredAdvice) : e.description.isConstructor = false := by
  rw [description_eq]
  rfl

theorem methods_define (d : Advising) (base : Definition σ) (k : Kind α)
    (code : String → α → (jp : JoinPoint) → Behaviour σ jp.requests Value) :
    (d.define base k code).component.type.methods =
      base.type.methods ++ d.advices.map (·.description) := by
  rw [define_component]

theorem effectiveScope_congr {D D' : Definition σ} (hn : D.name = D'.name)
    (ha : D.type.annotationsNamed scopeAnnotation = D'.type.annotationsNamed scopeAnnotation)
    (hs : D.scope = D'.scope) : D.effectiveScope = D'.effectiveScope := by
  simp only [Definition.effectiveScope, ha, hs, hn]

-- None of the annotations says anything about the scope.
theorem filter_aspectNotes (t : TypeDescription) (d : Advising) :
    (aspectNotes t d).filter (·.is scopeAnnotation) = [] := by
  rw [List.filter_eq_nil_iff]
  intro note hn
  rcases List.mem_append.mp hn with hn | hn
  case inl =>
    split at hn <;> cases hn
    case isFalse.head => decide
    case isFalse.tail hn => cases hn
  case inr =>
    obtain ⟨level, _, rfl⟩ := Option.map_eq_some_iff.mp (Option.mem_toList.mp hn)
    exact (by decide : ¬ privilegeAnnotation == scopeAnnotation)

theorem effectiveScope_define (d : Advising) (base : Definition σ) (k : Kind α)
    (code : String → α → (jp : JoinPoint) → Behaviour σ jp.requests Value) (scope : Scope) :
    ((d.define base k code).component.setScope scope).effectiveScope =
      (base.setScope scope).effectiveScope := by
  rw [define_component]
  refine effectiveScope_congr rfl ?_ rfl
  change (base.type.annotations ++ aspectNotes base.type d).filter _ = _
  rw [List.filter_append, filter_aspectNotes, List.append_nil]
  rfl

theorem settled_define (d : Advising) (base : Definition σ) (k : Kind α)
    (code : String → α → (jp : JoinPoint) → Behaviour σ jp.requests Value) :
    (d.define base k code).component.settled =
      (d.define base k code).component.setScope base.settled.scope := by
  have hs : (d.define base k code).component.scope = base.scope := by rw [define_component]
  have he : (d.define base k code).component.effectiveScope = base.effectiveScope := by
    refine (effectiveScope_define d base k code (d.define base k code).component.scope).trans ?_
    rw [hs]
    rfl
  rw [Definition.settled, he, hs]
  rfl

-- The names of the advices only have to differ from each other if they are no names of methods.
theorem nodup_names_iff {ms : List Method} {ds : List DeclaredAdvice}
    (hm : (ms.map (·.name)).Nodup) (hd : ∀ e ∈ ds, ∀ m ∈ ms, m.name ≠ e.name) :
    ((ms ++ ds.map (·.description)).map (·.name)).Nodup ↔ (ds.map (·.name)).Nodup := by
  have hn : (ds.map (·.description)).map (·.name) = ds.map (·.name) := by
    rw [List.map_map]
    exact List.map_congr_left fun e _ => name_description e
  rw [List.map_append, hn, List.nodup_append]
  refine ⟨fun h => h.right.left, fun h => ⟨hm, h, fun x hx y hy => ?_⟩⟩
  obtain ⟨m, hm, rfl⟩ := List.mem_map.mp hx
  obtain ⟨e, he, rfl⟩ := List.mem_map.mp hy
  exact hd e he m hm

theorem unreserved_iff {ms : List Method} {ds : List DeclaredAdvice}
    (hm : ∀ m ∈ ms, m.isConstructor = false → m.name ≠ "new" ∧ m.name ≠ "init") :
    (∀ m ∈ ms ++ ds.map (·.description), m.isConstructor = false →
      m.name ≠ "new" ∧ m.name ≠ "init") ↔ ∀ e ∈ ds, e.name ≠ "new" ∧ e.name ≠ "init" := by
  simp only [List.forall_mem_append, List.forall_mem_map, name_description,
    isConstructor_description, forall_const]
  exact and_iff_right hm

-- An aspect can be registered like its component, just if the names of its advices differ and none
-- of them is kept for something else.
theorem settled_regular_iff (hb : base.settled.Regular)
    (hd : ∀ e ∈ d.advices, ∀ m ∈ base.type.methods, m.name ≠ e.name) :
    (d.define base k code).component.settled.Regular ↔
      (d.advices.map (·.name)).Nodup ∧ ∀ e ∈ d.advices, e.name ≠ "new" ∧ e.name ≠ "init" := by
  have hm : (d.define base k code).component.settled.type.methods =
      base.type.methods ++ d.advices.map (·.description) := methods_define d base k code
  have hf : (d.define base k code).component.settled.type.fields = base.type.fields :=
    congrArg (·.type.fields) (define_component d base k code)
  rw [← nodup_names_iff hb.methods hd, ← unreserved_iff hb.reserved]
  constructor
  case mp  => exact fun h => ⟨hm ▸ h.methods, hm ▸ h.reserved⟩
  case mpr =>
    intro ⟨hn, hr⟩
    constructor
    case methods  => exact hm ▸ hn
    case fields   => exact hf ▸ hb.fields
    case reserved => exact hm ▸ hr
    case scope    =>
      rw [settled_define, effectiveScope_define]
      exact hb.scope

theorem mem_keys_advices (A : Aspect σ) (ds : List DeclaredAdvice) (name : String) :
    name ∈ (ds.foldl (fun A a => A.around a.description k (code a.name)) A).advices.map (·.1) ↔
      name ∈ ds.map (·.name) ∨ name ∈ A.advices.map (·.1) := by
  induction ds generalizing A
  case nil          => simp
  case cons a ds hi =>
    rw [List.foldl_cons, hi, Aspect.around, mem_keys_setEntry, name_description, List.map_cons,
      List.mem_cons, or_left_comm, or_assoc]

end Definition

section Classification

variable {σ α : Type} {code : String → α → (jp : JoinPoint) → Behaviour σ jp.requests Value}
variable {k : Kind α} {base : Definition σ} {e : DeclaredAdvice} {t : TypeDescription}
variable {catalog : Catalog σ} {providers : Providers σ} {name : String} {fault : AdviceFault}

-- The advice is of the wrong shape, or it has no expression or no code.
inductive Deficient : AdviceFault → Prop
  | constructor : Deficient .constructor
  | static : Deficient .static
  | abstract : Deficient .abstract
  | result (found : String) : Deficient (.result found)
  | params (found : List String) : Deficient (.params found)
  | noExpression : Deficient .noExpression
  | noBody : Deficient .noBody

theorem shaped_description (e : DeclaredAdvice) : e.description.Shaped := by
  rw [description_eq]
  refine ⟨rfl, ?_, ?_, rfl, joinPointTypeName, rfl, by decide⟩
  · exact (by decide : (Modifiers.ofList [.pub]).has .static = false)
  · exact (by decide : (Modifiers.ofList [.pub]).has .abstract = false)

-- The expressions are what annotates the method for its pointcut.
theorem annotationsNamed_around (e : DeclaredAdvice) :
    e.description.annotationsNamed aroundAnnotation =
      e.expressions.map fun l => ⟨ aroundAnnotation, [l.value]⟩ := by
  have hp : ¬ privilegeAnnotation == aroundAnnotation := by decide
  rw [description_eq, Method.annotationsNamed, List.filter_append, List.filter_eq_self.mpr,
    List.filter_eq_nil_iff.mpr, List.append_nil]
  · intro note hn
    obtain ⟨level, _, rfl⟩ := Option.map_eq_some_iff.mp (Option.mem_toList.mp hn)
    exact hp
  · intro note hn
    obtain ⟨l, _, rfl⟩ := List.mem_map.mp hn
    exact beq_self_eq_true aroundAnnotation

theorem isAnnotated_around (he : e.expressions ≠ []) :
    e.description.isAnnotated aroundAnnotation = true := by
  obtain ⟨l, hl⟩ := List.exists_mem_of_ne_nil _ he
  have hn : ⟨ aroundAnnotation, [l.value]⟩ ∈ e.description.annotationsNamed aroundAnnotation :=
    annotationsNamed_around e ▸ List.mem_map_of_mem hl
  have ⟨hn, hi⟩ := List.mem_filter.mp hn
  exact List.any_eq_true.mpr ⟨_, hn, hi⟩

-- A declared advice has the shape of one, and it has expressions: only these themselves can be at
-- fault.
theorem not_deficient_of_fault (he : e.expressions ≠ [])
    (hb : (catalog.body? t.name e.name).isSome)
    (h : Interpose.Fault catalog providers t e.description (.illegal name fault)) :
    ¬Deficient fault := by
  intro hd
  cases h
  case shape h             => cases (shaped_description e).shapeFault?.symm.trans h.shapeFault?
  case domain domain _ _ _ _ =>
    cases domain
    case execution => nomatch hd
    case autowire  => nomatch hd
  case privilege           => cases hd
  case body h              =>
    rw [name_description] at h
    rw [h] at hb
    cases hb
  case pointcut h          =>
    cases h
    case unannotated h =>
      rw [annotationsNamed_around, List.map_eq_nil_iff] at h
      exact he h
    case expression h =>
      obtain ⟨before, note, after, hs, _, hf⟩ := h
      have hm : note ∈ e.description.annotationsNamed aroundAnnotation :=
        hs ▸ List.mem_append_right _ (List.mem_cons_self ..)
      rw [annotationsNamed_around] at hm
      obtain ⟨l, _, rfl⟩ := List.mem_map.mp hm
      cases hf
      case empty h => cases h

end Classification

section Acceptable

variable {σ α : Type} {code : String → α → (jp : JoinPoint) → Behaviour σ jp.requests Value}
variable {k : Kind α} {base : Definition σ} {d : Advising} {e : DeclaredAdvice}

theorem name_define (d : Advising) (base : Definition σ) (k : Kind α)
    (code : String → α → (jp : JoinPoint) → Behaviour σ jp.requests Value) :
    (d.define base k code).name = base.name := by
  rw [Aspect.name, define_component]
  rfl

theorem isAspect_define (d : Advising) (base : Definition σ) (k : Kind α)
    (code : String → α → (jp : JoinPoint) → Behaviour σ jp.requests Value) :
    (d.define base k code).component.type.isAspect = true := by
  rw [define_component]
  change (base.type.annotations ++ aspectNotes base.type d).any _ = true
  rw [List.any_append, aspectNotes, List.any_append]
  cases ha : base.type.isAspect
  case true  => exact (Bool.or_eq_true _ _).mpr (.inl ha)
  case false => exact (Bool.or_eq_true _ _).mpr (.inr rfl)

theorem mem_keys_define (he : e ∈ d.advices) : e.name ∈ (d.define base k code).advices.map (·.1) :=
  (mem_keys_advices _ _ _).mpr (.inl (List.mem_map_of_mem he))

-- What a declared aspect is good for, whatever component it is made of.
structure Acceptable (d : Advising) : Prop where
  described {σ α : Type} (base : Definition σ) (k : Kind α)
    (code : String → α → (jp : JoinPoint) → Behaviour σ jp.requests Value) :
    (d.define base k code).component.type.methods =
      base.type.methods ++ d.advices.map (·.description)
  -- If its component can be registered and has no methods of these names, then so can the aspect,
  -- unless two of the names are the same or one is kept for allocation or initialization.
  accepted {σ α : Type} (base : Definition σ) (k : Kind α)
    (code : String → α → (jp : JoinPoint) → Behaviour σ jp.requests Value) (r : Registry σ) :
    (∃ r', r.register base = .ok r') →
      (∀ e ∈ d.advices, ∀ m ∈ base.type.methods, m.name ≠ e.name) →
        ((∃ r', r.register (d.define base k code).component = .ok r') ↔
          (d.advices.map (·.name)).Nodup ∧ ∀ e ∈ d.advices, e.name ≠ "new" ∧ e.name ≠ "init")
  -- Wherever it has been taken in, each of its advices is classified, and none lacks anything.
  classified {σ α : Type} (base : Definition σ) (k : Kind α)
    (code : String → α → (jp : JoinPoint) → Behaviour σ jp.requests Value)
    (b b₁ b₂ : Blueprint σ) : b.aspect (d.define base k code) = .ok b₁ → b₁.Grows b₂ →
      ∀ e ∈ d.advices, let t := (d.define base k code).component.type
        (t, e.description) ∈ Classification.declarations b₂.registry.hierarchy ∧
          ∀ providers uses name fault, Deficient fault →
            (Classification.adviceOf b₂.catalog providers t e.description (.run .empty uses)).1 ≠
              .error (.illegal name fault)

theorem acceptable (hd : ∀ e ∈ d.advices, e.expressions ≠ []) : Acceptable d where
  described := methods_define d
  accepted base k code r hr hb := by
    have ⟨hr, hn⟩ := Registry.exists_register_iff.mp hr
    rw [Registry.exists_register_iff, settled_regular_iff hr hb]
    refine and_iff_left ?_
    change (d.define base k code).name ∉ r.names
    rw [name_define]
    exact hn
  classified base k code b b₁ b₂ h hg e he := by
    have ⟨ht, hr, hc⟩ := (Blueprint.took_of_aspect h).grows hg
    have hm : e.description ∈ (d.define base k code).component.type.methods := by
      rw [methods_define]
      exact List.mem_append_right _ (List.mem_map_of_mem he)
    constructor
    case left =>
      refine List.mem_flatMap.mpr ⟨_, List.mem_filter.mpr ⟨?_, isAspect_define d base k code⟩,
        List.mem_map_of_mem (List.mem_filter.mpr ⟨hm, isAnnotated_around (hd e he)⟩)⟩
      rw [Registry.types_hierarchy]
      exact List.mem_map_of_mem (f := (·.type)) ht
    case right =>
      intro providers uses name fault hf h
      have hf' := (Classification.adviceOf_comes (Keyed.find?_eq_some hr.methods hm) _
        (Pointcut.Cache.empty_regular.run uses).faithful).right.left _ |>.mp h
      exact not_deficient_of_fault (hd e he) (hc e.name (mem_keys_define he)) hf' hf

end Acceptable

-- The attributes of a block become advices, and the aspect that they declare can be registered and
-- classified, as far as that is up to more than the names and the expressions.
theorem aspects_acceptable (h : declareAspect given b = .ok d) :
    d.block = { b with members := b.members.map strippedMember } ∧
      List.Forall₂ AdvisesBy (b.functions.filter (Advises ·)) d.advices ∧
        Acceptable d.toAdvising := by
  have ⟨hb, ha⟩ := declareAspect_eq_ok h
  refine ⟨hb, ha, acceptable fun e he => ?_⟩
  obtain ⟨f, hf, hfe⟩ := exists_of_mem ha.flip e he
  exact hfe.expressions_ne_nil (of_decide_eq_true (List.mem_filter.mp hf).right)

def watchSource : String :=
  "impl Watch \x7b #[around(\"within(shop.Till)\")] #[inline] " ++
    "#[around(\"execution(* sell(..))\")] #[privilege(3)] " ++
    "fn time(&self, jp: &JoinPoint<'_>) -> Result<Value> \x7b jp.proceed() \x7d " ++
    "fn reset(&self) \x7b \x7d \x7d"

def DeclaredAdvice.view (e : DeclaredAdvice) : String × List String × Option Int :=
  (e.name, e.expressions.map (·.value), e.privilege.map (·.value))

theorem aspects_acceptable_watch : ∃ b d, Block.parse watchSource = .ok b ∧
    declareAspect [] b = .ok d ∧
      d.advices.map (·.view) = [("time", ["within(shop.Till)", "execution(* sell(..))"], some 3)] ∧
        Acceptable d.toAdvising := by
  have hp : ((Block.parse watchSource).toOption.bind fun b =>
      (declareAspect [] b).toOption.map fun d => d.advices.map (·.view)) =
        some [("time", ["within(shop.Till)", "execution(* sell(..))"], some 3)] := by
    decide +kernel
  simp only [Option.bind_eq_some_iff, Option.map_eq_some_iff, toOption_eq_some] at hp
  obtain ⟨b, hb, d, hd, hp⟩ := hp
  exact ⟨b, d, hb, hd, hp, (aspects_acceptable hd).right.right⟩

def clock : Definition Unit := .make (.plain "shop.Clock") fun _ => pure .unit

-- The block is accepted and the component can be registered, with no method of such a name, but the
-- aspect cannot.
def Refused (source : String) (fault : ContractFault) : Prop :=
  ∃ b d, Block.parse source = .ok b ∧ declareAspect [] b = .ok d ∧
    (∃ r, Registry.empty.register clock = .ok r) ∧
      (∀ e ∈ d.advices, ∀ m ∈ clock.type.methods, m.name ≠ e.name) ∧
        ∀ (k : Kind Value)
          (code : String → Value → (jp : JoinPoint) → Behaviour Unit jp.requests Value),
          Registry.empty.register (d.define clock k code).component =
            .error (.contractViolation "shop.Clock" fault)

theorem refused_of_methodFault? {source : String} {fault : ContractFault}
    (h : ((Block.parse source).toOption.bind fun b => (declareAspect [] b).toOption.map fun d =>
      (d.advices.all fun e => clock.type.methods.all fun m => m.name != e.name,
        Definition.methodFault? [] (clock.type.methods ++ d.advices.map (·.description)))) =
      some (true, some fault)) : Refused source fault := by
  simp only [Option.bind_eq_some_iff, Option.map_eq_some_iff, toOption_eq_some, Prod.mk.injEq] at h
  obtain ⟨b, hb, d, hd, hn, hf⟩ := h
  simp only [List.all_eq_true, bne_iff_ne] at hn
  refine ⟨b, d, hb, hd, ⟨_, rfl⟩, hn, fun k code => ?_⟩
  rw [define_component, Registry.register, Definition.validate, hf]
  rfl

def clockSource : String :=
  "impl Clock \x7b #[around(\"execution(* sell(..))\")] " ++
    "fn init(&self, jp: &JoinPoint<'_>) -> Result<Value> \x7b jp.proceed() \x7d \x7d"

def clocksSource : String :=
  "impl Clock \x7b #[cfg(unix)] #[around(\"execution(* sell(..))\")] " ++
    "fn time(&self, jp: &JoinPoint<'_>) -> Result<Value> \x7b jp.proceed() \x7d " ++
    "#[cfg(windows)] #[around(\"execution(* sell(..))\")] " ++
    "fn time(&self, jp: &JoinPoint<'_>) -> Result<Value> \x7b jp.proceed() \x7d \x7d"

-- Names are looked at only when the aspect is registered: one that is kept for the initialization,
-- and one that two advices have, say for different systems.
theorem advice_names_refused : Refused clockSource (.reservedMethod "init") ∧
    Refused clocksSource (.repeatedMethod "time") := by
  constructor
  case left  => exact refused_of_methodFault? (by decide +kernel)
  case right => exact refused_of_methodFault? (by decide +kernel)

end Interpose.Declaration
