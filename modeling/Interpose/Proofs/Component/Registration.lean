import Std.Data.HashMap.Lemmas
import Interpose.Proofs.Component.Validity

namespace Interpose

variable {σ : Type}

namespace Registry

variable {d d' : Definition σ} {r : Registry σ} {e : ContainerError}

-- A call of `register` with its answer. The registry stays as it is if the call fails.
def enter (d : Definition σ) : StateM (Registry σ) (Except ContainerError Unit) := fun r =>
  match r.register d with
  | .ok r' => (.ok (), r')
  | .error e => (.error e, r)

def enterAll (ds : List (Definition σ)) :
    StateM (Registry σ) (List (Except ContainerError Unit)) :=
  ds.mapM enter

theorem enter_of_invalid (h : d.validate = .error e) : enter d r = (.error e, r) := by
  rw [enter, register, h]
  rfl

theorem enter_of_taken (h : d.validate = .ok d') (ht : r.contains d'.name = true) :
    enter d r = (.error (.duplicateComponent d'.name), r) := by
  have hr : r.register d = .error (.duplicateComponent d'.name) := by
    rw [register, h]
    exact dif_neg (by simp [ht])
  rw [enter, hr]

theorem enter_of_free (h : d.validate = .ok d') (hf : r.contains d'.name = false) :
    enter d r = (.ok (), ⟨r.definitions ++ [d'], nodup_append hf⟩) := by
  have hr : r.register d = .ok ⟨r.definitions ++ [d'], nodup_append hf⟩ := by
    rw [register, h]
    exact dif_pos hf
  rw [enter, hr]

-- A call takes in its component behind all others, or nothing at all.
theorem definitions_enter (d : Definition σ) (r : Registry σ) : (enter d r).2.definitions =
    r.definitions ++ if (enter d r).1.isOk then [d.settled] else [] := by
  cases hv : d.validate
  case error => simp [enter_of_invalid hv, Except.isOk, Except.toBool]
  case ok d' =>
    cases hc : r.contains d'.name
    case true  => simp [enter_of_taken hv hc, Except.isOk, Except.toBool]
    case false => simp [enter_of_free hv hc, Except.isOk, Except.toBool, Definition.eq_settled hv]

theorem Regular.enter (hr : r.Regular) (d : Definition σ) : (Registry.enter d r).2.Regular := by
  cases h : r.register d
  case ok r'   => rw [Registry.enter, h]; exact hr.register h
  case error e => rw [Registry.enter, h]; exact hr

theorem enter_eq_ok_iff : (enter d r).1 = .ok () ↔ d.settled.Regular ∧ d.name ∉ r.names := by
  rw [← Definition.validate_iff]
  cases hv : d.validate
  case error => simp [enter_of_invalid hv]
  case ok d' =>
    have hn : d'.name = d.name := congrArg (·.name) (Definition.validate_eq_ok hv).left
    have hs := Definition.eq_settled hv
    cases hc : r.contains d'.name
    case true =>
      have hm : d.name ∈ r.names := by simpa [contains, hn] using hc
      simp [enter_of_taken hv hc, hm]
    case false =>
      have hm : d.name ∉ r.names := by simpa [contains, hn] using hc
      simp [enter_of_free hv hc, hm, hs]

theorem enterAll_cons (d : Definition σ) (ds : List (Definition σ)) (r : Registry σ) :
    enterAll (d :: ds) r = ((enter d r).1 :: (enterAll ds (enter d r).2).1,
      (enterAll ds (enter d r).2).2) := by
  rw [enterAll, List.mapM_cons]
  rfl

theorem length_enterAll (ds : List (Definition σ)) (r : Registry σ) :
    (enterAll ds r).1.length = ds.length := by
  induction ds generalizing r
  case nil => rfl
  case cons d ds hi => simp [enterAll_cons, hi]

theorem definitions_enterAll (ds : List (Definition σ)) (r : Registry σ) :
    (enterAll ds r).2.definitions =
      r.definitions ++ ((ds.zip (enterAll ds r).1).filter (·.2.isOk)).map (·.1.settled) := by
  induction ds generalizing r
  case nil => exact (List.append_nil _).symm
  case cons d ds hi =>
    rw [enterAll_cons, hi, definitions_enter, List.zip_cons_cons, List.filter_cons,
      List.append_assoc]
    split <;> rfl

theorem Regular.enterAll (hr : r.Regular) (ds : List (Definition σ)) :
    (Registry.enterAll ds r).2.Regular := by
  induction ds generalizing r
  case nil => exact hr
  case cons d ds hi => exact enterAll_cons d ds r ▸ hi (hr.enter d)

end Registry

-- A registry as it is kept: the components in order and, under their names, their places.
structure Roster (σ : Type) where
  definitions : List (Definition σ)
  index : Std.HashMap String Nat

namespace Roster

def empty : Roster σ := ⟨[], ∅⟩

def get? (s : Roster σ) (name : String) : Option (Definition σ) :=
  s.index[name]?.bind fun i => s.definitions[i]?

def types (s : Roster σ) : Hierarchy := .ofList (s.definitions.map (·.type))

def register (d : Definition σ) : ExceptT ContainerError (StateM (Roster σ)) Unit := do
  let d ← MonadExcept.ofExcept d.validate
  if (← get).index.contains d.name then throw (.duplicateComponent d.name)
  modify fun s => { s with index := s.index.insert d.name s.definitions.length }
  modify fun s => { s with definitions := s.definitions ++ [d] }

def registerAll (ds : List (Definition σ)) :
    StateM (Roster σ) (List (Except ContainerError Unit)) :=
  ds.mapM fun d => (register d).run

-- A roster is one of a registry if it has its components and tells where each name stands.
structure Lists (s : Roster σ) (r : Registry σ) : Prop where
  definitions : s.definitions = r.definitions
  index       : ∀ name (i : Nat), s.index[name]? = some i ↔ r.names[i]? = some name

variable {d d' : Definition σ} {s s' : Roster σ} {r : Registry σ} {name : String}
variable {e : ContainerError}

section Calls

theorem register_of_invalid (h : d.validate = .error e) : register d s = (.error e, s) := by
  rw [register, h]
  rfl

theorem register_of_taken (h : d.validate = .ok d') (ht : s.index.contains d'.name = true) :
    register d s = (.error (.duplicateComponent d'.name), s) := by
  rw [register, h]
  refine (Step.bind_of_ok rfl).trans ((Step.bind_of_ok rfl).trans ?_)
  rw [if_pos ht]
  rfl

theorem register_of_free (h : d.validate = .ok d') (hf : s.index.contains d'.name = false) :
    register d s =
      (.ok (), ⟨s.definitions ++ [d'], s.index.insert d'.name s.definitions.length⟩) := by
  rw [register, h]
  refine (Step.bind_of_ok rfl).trans ((Step.bind_of_ok rfl).trans ?_)
  rw [hf]
  rfl

end Calls

section Places

theorem lists_empty : (empty : Roster σ).Lists .empty :=
  ⟨rfl, fun name i => by simp [empty, Registry.names, Registry.empty]⟩

theorem Lists.contains (h : s.Lists r) : s.index.contains name = r.contains name := by
  rw [Bool.eq_iff_iff, Std.HashMap.contains_eq_isSome_getElem?, Option.isSome_iff_exists]
  simp only [h.index, Registry.contains, List.contains_iff_mem, List.mem_iff_getElem?]

theorem Lists.get?_eq (h : s.Lists r) : s.get? name = r.get? name := by
  refine Option.ext fun d => ?_
  simp only [get?, Option.bind_eq_some_iff, h.index, h.definitions, Registry.names,
    List.getElem?_map, Option.map_eq_some_iff]
  constructor
  case mp =>
    rintro ⟨i, ⟨d', hd', hn⟩, hd⟩
    cases hd.symm.trans hd'
    exact hn ▸ Registry.get?_eq_some (List.mem_of_getElem? hd)
  case mpr =>
    intro h
    have hn : d.name = name := by simpa using List.find?_some h
    obtain ⟨i, hd⟩ := List.mem_iff_getElem?.mp (List.mem_of_find?_eq_some h)
    exact ⟨i, ⟨d, hd, hn⟩, hd⟩

theorem Lists.free (h : s.Lists r) (hf : r.contains d.name = false) :
    Lists ⟨s.definitions ++ [d], s.index.insert d.name s.definitions.length⟩
      ⟨r.definitions ++ [d], Registry.nodup_append hf⟩ := by
  refine ⟨by rw [h.definitions], fun name i => ?_⟩
  have hl : s.definitions.length = r.names.length := by simp [h.definitions, Registry.names]
  have hn : Registry.names ⟨r.definitions ++ [d], Registry.nodup_append hf⟩ =
      r.names ++ [d.name] := List.map_append
  have ha : (r.names ++ [d.name])[i]? = some name ↔
      r.names[i]? = some name ∨ r.names.length = i ∧ d.name = name := by grind
  rw [hn, ha, hl, Std.HashMap.getElem?_insert]
  by_cases hd : d.name = name
  case neg => simp [hd, h.index]
  case pos =>
    have hi : ∀ i : Nat, r.names[i]? ≠ some name := by
      intro i hi
      have hm : d.name ∈ r.names := hd ▸ List.mem_of_getElem? hi
      simp [Registry.contains, hm] at hf
    simp [hd, hi]

-- One call gives the same answer with a roster, which stays one of the registry.
theorem Lists.register (h : s.Lists r) (d : Definition σ) :
    (Roster.register d s).1 = (Registry.enter d r).1 ∧
      (Roster.register d s).2.Lists (Registry.enter d r).2 := by
  cases hv : d.validate
  case error e =>
    rw [register_of_invalid hv, Registry.enter_of_invalid hv]
    exact ⟨rfl, h⟩
  case ok d' =>
    cases hc : r.contains d'.name
    case true =>
      rw [register_of_taken hv (h.contains.trans hc), Registry.enter_of_taken hv hc]
      exact ⟨rfl, h⟩
    case false =>
      rw [register_of_free hv (h.contains.trans hc), Registry.enter_of_free hv hc]
      exact ⟨rfl, h.free hc⟩

theorem Lists.registerAll (h : s.Lists r) (ds : List (Definition σ)) :
    (Roster.registerAll ds s).1 = (Registry.enterAll ds r).1 ∧
      (Roster.registerAll ds s).2.Lists (Registry.enterAll ds r).2 := by
  induction ds generalizing s r
  case nil => exact ⟨rfl, h⟩
  case cons d ds hi =>
    have ⟨ha, hl⟩ := h.register d
    have ⟨has, hls⟩ := hi hl
    simp only [Roster.registerAll, Registry.enterAll, List.mapM_cons] at *
    exact ⟨congrArg₂ List.cons ha has, hls⟩

end Places

theorem register_refused (h : register d s = (.error e, s')) :
    s' = s ∧ (d.Objection e ∨ e = .duplicateComponent d.name) := by
  cases hv : d.validate
  case error e =>
    cases h.symm.trans (register_of_invalid hv)
    exact ⟨rfl, .inl (Definition.objection_of_validate hv)⟩
  case ok d' =>
    have hn : d'.name = d.name := congrArg (·.name) (Definition.validate_eq_ok hv).left
    cases hc : s.index.contains d'.name
    case false => cases h.symm.trans (register_of_free hv hc)
    case true =>
      cases h.symm.trans (register_of_taken hv hc)
      exact ⟨rfl, .inr (hn ▸ rfl)⟩

-- What has become of a registry by calls of `register`, of which some may have failed.
structure Kept (calls : List (Definition σ)) (answers : List (Except ContainerError Unit))
    (s : Roster σ) (r : Registry σ) : Prop where
  definitions : s.definitions = r.definitions
  get?        : ∀ name, s.get? name = r.get? name
  hierarchy   : s.types = r.hierarchy
  distinct    : (s.definitions.map (·.name)).Nodup
  place       : ∀ name (i : Nat),
    s.index[name]? = some i ↔ ∃ d, s.definitions[i]? = some d ∧ d.name = name
  -- The components are those of the calls that succeeded, in the order of the calls.
  answered    : answers.length = calls.length
  accepted    : s.definitions = ((calls.zip answers).filter (·.2.isOk)).map (·.1.settled)
  types       : s.types.types = s.definitions.map (·.type)
  regular     : ∀ d ∈ s.definitions, d.Regular
  -- The annotation for a scope, of which there is at most one, says what the scope is.
  annotations : ∀ d ∈ s.definitions, (d.type.annotationsNamed scopeAnnotation).length ≤ 1
  scope       : ∀ d ∈ s.definitions, ∀ a, d.type.annotationsNamed scopeAnnotation = [a] →
    Scope.parse? (a.value?.getD "") = some d.scope
  -- One more call succeeds or leaves everything as it is.
  succeeds    : ∀ d, (register d s).1 = .ok () ↔
    d.settled.Regular ∧ d.name ∉ s.definitions.map (·.name)
  fails       : ∀ d e s', register d s = (.error e, s') →
    s' = s ∧ (d.Objection e ∨ e = .duplicateComponent d.name)

theorem Lists.kept {calls : List (Definition σ)} {answers : List (Except ContainerError Unit)}
    (h : s.Lists r) (hr : r.Regular) (hn : answers.length = calls.length)
    (hd : r.definitions = ((calls.zip answers).filter (·.2.isOk)).map (·.1.settled)) :
    Kept calls answers s r := by
  have ht : s.types = r.hierarchy := by rw [types, h.definitions, Registry.hierarchy]
  constructor
  case definitions => exact h.definitions
  case get?        => exact fun _ => h.get?_eq
  case hierarchy   => exact ht
  case distinct    => exact h.definitions ▸ r.nodup
  case place       => simp [h.index, h.definitions, Registry.names]
  case answered    => exact hn
  case accepted    => exact h.definitions.trans hd
  case types       => rw [ht, h.definitions, Registry.types_hierarchy]
  case regular     => exact fun d hd => hr d (h.definitions ▸ hd)
  case annotations => exact fun d hd => (hr d (h.definitions ▸ hd)).length_annotationsNamed
  case scope       => exact fun d hd a => (hr d (h.definitions ▸ hd)).scope_eq
  case succeeds    =>
    intro d
    rw [(h.register d).left, Registry.enter_eq_ok_iff, h.definitions, Registry.names]
  case fails       => exact fun _ _ _ => register_refused

-- After any calls of `register` the index is in step with the components, which are those of the
-- calls that succeeded, and a call that fails changes neither.
theorem register_keeps (calls : List (Definition σ)) : ∃ answers s r,
    registerAll calls empty = (answers, s) ∧ Registry.enterAll calls .empty = (answers, r) ∧
      Kept calls answers s r := by
  have ⟨ha, hl⟩ := lists_empty.registerAll calls
  refine ⟨_, (registerAll calls empty).2, _, Prod.ext ha rfl, rfl, ?_⟩
  refine hl.kept ?regular ?answered ?accepted
  case regular  => exact Registry.empty_regular.enterAll calls
  case answered => exact Registry.length_enterAll calls .empty
  case accepted => exact Registry.definitions_enterAll calls .empty

end Roster
end Interpose
