import Mathlib.Data.List.Forall2
import Interpose.Declaration.Methods
import Interpose.Proofs.Outcome
import Interpose.Proofs.Source.Members

namespace Interpose.Declaration

open Source Interpose.Outcome

variable {f : Function} {b : Block} {m : DeclaredMethod}

-- The function takes the instance by a plain reference, and its name has no meaning of its own.
structure BecomesMethod (f : Function) : Prop where
  receiver : ∃ tokens comma rest, f.arguments = (.receiver true false tokens, comma) :: rest
  notNew   : f.name ≠ "new"
  notInit  : f.name ≠ "init"

theorem hasSharedReceiver_iff : f.hasSharedReceiver = true ↔
    ∃ tokens comma rest, f.arguments = (.receiver true false tokens, comma) :: rest := by
  rw [Function.hasSharedReceiver]
  cases f.arguments
  case nil => simp
  case cons a rest =>
    obtain ⟨this, comma⟩ := a
    cases this
    case receiver reference changing tokens =>
      cases reference <;> cases changing <;> simp [Argument.isSharedReceiver]
    case typed => simp [Argument.isSharedReceiver]

theorem isDeclared_iff : isDeclared f = true ↔ BecomesMethod f := by
  rw [isDeclared, Bool.and_eq_true, hasSharedReceiver_iff]
  simp only [isReserved, allocationName, initializationName, Bool.not_eq_true',
    Bool.or_eq_false_iff, beq_eq_false_iff_ne]
  exact ⟨fun ⟨hr, hn, hi⟩ => ⟨hr, hn, hi⟩, fun ⟨hr, hn, hi⟩ => ⟨hr, hn, hi⟩⟩

instance : DecidablePred BecomesMethod := fun _ => decidable_of_iff _ isDeclared_iff

theorem filter_isDeclared (fs : List Function) :
    fs.filter isDeclared = fs.filter (BecomesMethod ·) :=
  List.filter_congr fun f _ => by simp [← isDeclared_iff]

-- How an argument of a type is passed on.
inductive Passes : TypeExpr → Passing → Prop
  | shared {type inner : TypeExpr} (h : type.sharedInner = some inner) : Passes type (.shared inner)
  | owned {type : TypeExpr} (h : type.sharedInner = none) (hr : type.isReference = false) :
    Passes type (.owned type)

theorem passingOf_eq_ok {type : TypeExpr} {p : Passing} :
    passingOf type = .ok p ↔ Passes type p := by
  rw [passingOf]
  constructor
  case mp =>
    intro h
    split at h
    case h_1 inner hi => cases h; exact .shared hi
    case h_2 hi =>
      split at h <;> cases h
      case isFalse hr => exact .owned hi (Bool.eq_false_iff.mpr hr)
  case mpr =>
    rintro (h | ⟨h, hr⟩)
    case shared => simp [h]
    case owned  => simp [h, hr]

theorem Passes.type_eq {type : TypeExpr} {p : Passing} (h : Passes type p) :
    p.type = type.sharedInner.getD type := by
  cases h
  case shared h  => rw [h]; rfl
  case owned h _ => rw [h]; rfl

theorem isReference_eq_false {type : TypeExpr} : type.isReference = false ↔ ∃ p, Passes type p := by
  constructor
  case mp =>
    intro hr
    cases hi : type.sharedInner
    case none       => exact ⟨_, .owned hi hr⟩
    case some inner => exact ⟨_, .shared hi⟩
  case mpr =>
    rintro ⟨_, h | ⟨_, hr⟩⟩
    case shared => cases type <;> first | rfl | cases h
    case owned  => exact hr

-- The function cannot be called with values.
inductive Unfit (f : Function) : Prop
  | asynchronous (h : f.isAsynchronous)
  | generic (h : f.generics ≠ [])
  | byReference {a : Argument × Bool} {type : TypeExpr} (ha : a ∈ f.arguments.drop 1)
    (ht : a.1.type? = some type) (hr : type.isReference)

-- The argument has a type and is passed on so.
def PassesOn (a : Argument × Bool) (p : Passing) : Prop :=
  ∃ type, a.1.type? = some type ∧ Passes type p

-- The method is that of the function: it has the name and passes the arguments on, in order.
structure Declares (f : Function) (m : DeclaredMethod) : Prop where
  name     : m.name = f.name ∧ m.description.name = f.name
  bindings : List.Forall₂ PassesOn (f.arguments.drop 1) (m.signature.bindings.map (·.passing))
  labels   : List.Forall₂ (fun a l => ∃ type, a.1.type? = some type ∧
    l = (type.sharedInner.getD type).label) (f.arguments.drop 1) m.description.params

-- Each value is taken by its place, bound to the name of the same number, and passed on by it.
def Signature.of (ps : List Passing) : Signature where
  labels := ps.map Passing.label
  bindings := ps.zipIdx.map fun p => ⟨p.2, p.1, p.2⟩
  arguments := List.range ps.length

theorem arity_of (ps : List Passing) : (Signature.of ps).arity = ps.length :=
  List.length_range

theorem push_of (ps : List Passing) (p : Passing) :
    (Signature.of ps).push ps.length p = .of (ps ++ [p]) := by
  simp [Signature.of, Signature.push, List.zipIdx_append, List.range_succ]

section Loop

variable {as : List (Argument × Bool)} {s : Signature}

-- The loop over the arguments. The induction is on those that are left; as they all have types, as
-- many places have been counted as arguments are passed on.
theorem foldlM_next (ps : List Passing) (ht : ∀ a ∈ as, ∃ type, a.1.type? = some type) :
    (as.zipIdx ps.length).foldlM Signature.next (.of ps) = .ok s ↔
      ∃ qs, List.Forall₂ PassesOn as qs ∧ .of (ps ++ qs) = s := by
  induction as generalizing ps
  case nil => simp
  case cons a as hi =>
    have ⟨⟨type, ht⟩, hts⟩ := List.forall_mem_cons.mp ht
    have hn (p : Passing) : ps.length + 1 = (ps ++ [p]).length := by simp
    simp only [List.zipIdx_cons, foldlM_cons_eq_ok, Signature.next, ht, bind_eq_ok, pure_eq_ok,
      passingOf_eq_ok]
    constructor
    case mp =>
      rintro ⟨_, ⟨p, hp, rfl⟩, h⟩
      rw [push_of, hn p] at h
      obtain ⟨qs, hqs, hs⟩ := (hi _ hts).mp h
      exact ⟨p :: qs, .cons ⟨type, ht, hp⟩ hqs, by simpa using hs⟩
    case mpr =>
      rintro ⟨_, hps, hs⟩
      cases hps
      case cons p qs hp hqs =>
        obtain ⟨type', ht', hp⟩ := hp
        cases ht.symm.trans ht'
        refine ⟨_, ⟨p, hp, rfl⟩, ?_⟩
        rw [push_of, hn p]
        exact (hi _ hts).mpr ⟨qs, hqs, by simpa using hs⟩

theorem ofArguments_eq_ok (ht : ∀ a ∈ as, ∃ type, a.1.type? = some type) :
    Signature.ofArguments as = .ok s ↔ ∃ ps, List.Forall₂ PassesOn as ps ∧ .of ps = s :=
  foldlM_next [] ht

end Loop

theorem ofFunction_eq_ok (hf : f.TakesTyped) : DeclaredMethod.ofFunction f = .ok m ↔
    f.isAsynchronous = false ∧ f.generics = [] ∧ ∃ ps,
      List.Forall₂ PassesOn (f.arguments.drop 1) ps ∧
      ⟨f.name, f.isPublic, .of ps, outcomeOf ((f.output.bind TypeExpr.successType).or f.output),
        (f.output.bind TypeExpr.successType).isSome⟩ = m := by
  simp only [DeclaredMethod.ofFunction]
  cases f.isAsynchronous
  case true  => exact ⟨nofun, nofun⟩
  case false =>
    cases f.generics
    case cons => exact ⟨nofun, nofun⟩
    case nil  =>
      simp only [Bool.false_eq_true, if_false, List.isEmpty_nil, Bool.not_true, bind_eq_ok,
        pure_eq_ok, ofArguments_eq_ok hf, true_and]
      constructor
      case mp  => rintro ⟨_, ⟨ps, hps, rfl⟩, h⟩; exact ⟨ps, hps, h⟩
      case mpr => rintro ⟨ps, hps, h⟩; exact ⟨_, ⟨ps, hps, rfl⟩, h⟩

theorem exists_ofFunction (hf : f.TakesTyped) :
    (∃ m, DeclaredMethod.ofFunction f = .ok m) ↔ ¬Unfit f := by
  have hp : (∃ ps, List.Forall₂ PassesOn (f.arguments.drop 1) ps) ↔
      ∀ a ∈ f.arguments.drop 1, ∀ type, a.1.type? = some type → type.isReference = false := by
    rw [exists_forall₂]
    refine forall₂_congr fun a ha => ?_
    obtain ⟨type, ht⟩ := hf a ha
    simp [PassesOn, ht, isReference_eq_false]
  simp only [ofFunction_eq_ok hf]
  constructor
  case mp =>
    rintro ⟨m, ha, hg, ps, hps, _⟩ (h | h | ⟨h, ht, hr⟩)
    case asynchronous => exact Bool.eq_false_iff.mp ha h
    case generic      => exact h hg
    case byReference  => exact Bool.eq_false_iff.mp (hp.mp ⟨ps, hps⟩ _ h _ ht) hr
  case mpr =>
    intro h
    have ha : f.isAsynchronous = false := Bool.eq_false_iff.mpr fun ha => h (.asynchronous ha)
    have hg : f.generics = [] := by_contra fun hg => h (.generic hg)
    have ⟨ps, hps⟩ := hp.mpr fun a ha type ht =>
      Bool.eq_false_iff.mpr fun hr => h (.byReference ha ht hr)
    exact ⟨_, ha, hg, ps, hps, rfl⟩

theorem map_passing_of (ps : List Passing) : (Signature.of ps).bindings.map (·.passing) = ps := by
  simp [Signature.of, Function.comp_def, List.zipIdx_map_fst]

theorem declares_of_ofFunction (hf : f.TakesTyped) (h : DeclaredMethod.ofFunction f = .ok m) :
    Declares f m := by
  obtain ⟨_, _, ps, hps, rfl⟩ := (ofFunction_eq_ok hf).mp h
  refine ⟨⟨rfl, rfl⟩, (map_passing_of ps).symm ▸ hps, ?labels⟩
  refine List.forall₂_map_right_iff.mpr (hps.imp fun a p hp => ?_)
  obtain ⟨type, ht, hp⟩ := hp
  exact ⟨type, ht, by rw [Passing.label, hp.type_eq]⟩

theorem ofBlock_eq_ok {d : DeclaredMethods} : DeclaredMethods.ofBlock b = .ok d ↔
    b.ofTrait = false ∧ b.generic = false ∧ ∃ ms,
      List.Forall₂ (fun f m => DeclaredMethod.ofFunction f = .ok m)
        (b.functions.filter (BecomesMethod ·)) ms ∧ ⟨b, ms⟩ = d := by
  simp only [DeclaredMethods.ofBlock]
  cases b.ofTrait
  case true  => exact ⟨nofun, nofun⟩
  case false =>
    cases b.generic
    case true  => exact ⟨nofun, nofun⟩
    case false =>
      simp only [Bool.false_eq_true, if_false, filter_isDeclared, bind_eq_ok, pure_eq_ok,
        mapM_eq_ok, true_and]

-- The block has no methods to be declared.
inductive Rejected (b : Block) : Prop
  | ofTrait (h : b.ofTrait)
  | generic (h : b.generic)
  | unfit (f : Function) (hf : f ∈ b.functions) (hm : BecomesMethod f) (hu : Unfit f)

theorem exists_ofBlock (hb : ∀ f ∈ b.functions, f.TakesTyped) :
    (∃ d, DeclaredMethods.ofBlock b = .ok d) ↔ ¬Rejected b := by
  simp only [ofBlock_eq_ok]
  constructor
  case mp =>
    rintro ⟨_, ht, hg, ms, hms, _⟩ (h | h | ⟨f, hf, hm, hu⟩)
    case ofTrait => exact Bool.eq_false_iff.mp ht h
    case generic => exact Bool.eq_false_iff.mp hg h
    case unfit   =>
      have ⟨m, _, hm⟩ := exists_of_mem hms f (List.mem_filter.mpr ⟨hf, decide_eq_true hm⟩)
      exact (exists_ofFunction (hb f hf)).mp ⟨m, hm⟩ hu
  case mpr =>
    intro h
    have ht : b.ofTrait = false := Bool.eq_false_iff.mpr fun ht => h (.ofTrait ht)
    have hg : b.generic = false := Bool.eq_false_iff.mpr fun hg => h (.generic hg)
    have ⟨ms, hms⟩ := exists_forall₂.mpr fun f (hf : f ∈ b.functions.filter (BecomesMethod ·)) =>
      have ⟨hf, hm⟩ := List.mem_filter.mp hf
      (exists_ofFunction (hb f hf)).mpr fun hu => h (.unfit f hf (of_decide_eq_true hm) hu)
    exact ⟨_, ht, hg, ms, hms, rfl⟩

end Interpose.Declaration
