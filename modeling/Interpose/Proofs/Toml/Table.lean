import Interpose.Toml.Value
import Interpose.Proofs.Keyed

namespace Interpose.Toml.Value

variable {P : List (String × Value) → Prop} {v w w' : Value} {items : List Value}
variable {entries : List (String × Value)} {key : String} {path : List String}

section Parts

-- The value has no parts of its own.
def IsAtom : Value → Prop
  | array _ | table _ => False
  | _ => True

@[elab_as_elim]
theorem induction {motive : Value → Prop} (atom : ∀ v, v.IsAtom → motive v)
    (array : ∀ items, (∀ v ∈ items, motive v) → motive (.array items))
    (table : ∀ entries, (∀ e ∈ entries, motive e.2) → motive (.table entries)) (v : Value) :
    motive v :=
  @Value.rec motive (fun items => ∀ v ∈ items, motive v)
    (fun entries => ∀ e ∈ entries, motive e.2) (fun e => motive e.2)
    (fun _ => atom _ trivial) (fun _ => atom _ trivial) (fun _ => atom _ trivial)
    (fun _ => atom _ trivial) (fun _ => atom _ trivial) array table
    nofun (fun _ _ h hs => List.forall_mem_cons.mpr ⟨h, hs⟩)
    nofun (fun _ _ h hs => List.forall_mem_cons.mpr ⟨h, hs⟩) (fun _ _ h => h) v

-- The first value is the second one or stands somewhere in it.
inductive Part : Value → Value → Prop
  | self (v : Value) : Part v v
  | item {w v : Value} {items : List Value} : v ∈ items → Part w v → Part w (array items)
  | entry {w v : Value} {key : String} {entries : List (String × Value)} : (key, v) ∈ entries →
    Part w v → Part w (table entries)

-- All tables of a value are of this kind.
def EachTable (P : List (String × Value) → Prop) (v : Value) : Prop :=
  ∀ entries, Part (table entries) v → P entries

theorem IsAtom.eachTable (h : v.IsAtom) : v.EachTable P := by
  intro entries hp
  cases hp <;> cases h

theorem eachTable_array : (array items).EachTable P ↔ ∀ v ∈ items, v.EachTable P := by
  constructor
  case mp  => exact fun h v hv entries hp => h entries (.item hv hp)
  case mpr =>
    intro h entries hp
    cases hp
    case item hp hv => exact h _ hv entries hp

theorem eachTable_table :
    (table entries).EachTable P ↔ P entries ∧ ∀ e ∈ entries, e.2.EachTable P := by
  constructor
  case mp  => exact fun h => ⟨h entries (.self _), fun e he es hp => h es (.entry he hp)⟩
  case mpr =>
    intro ⟨h, he⟩ es hp
    cases hp
    case self        => exact h
    case entry hp hm => exact he _ hm es hp

mutual

def decidableEachTable (P : List (String × Value) → Prop) [DecidablePred P] :
    (v : Value) → Decidable (v.EachTable P)
  | .array items =>
    have := decidableItems P items
    decidable_of_iff _ eachTable_array.symm
  | .table entries =>
    have := decidableEntries P entries
    decidable_of_iff _ eachTable_table.symm
  | .text _ => .isTrue (IsAtom.eachTable trivial)
  | .integer _ => .isTrue (IsAtom.eachTable trivial)
  | .float _ => .isTrue (IsAtom.eachTable trivial)
  | .boolean _ => .isTrue (IsAtom.eachTable trivial)
  | .moment _ => .isTrue (IsAtom.eachTable trivial)

def decidableItems (P : List (String × Value) → Prop) [DecidablePred P] :
    (items : List Value) → Decidable (∀ v ∈ items, v.EachTable P)
  | [] => .isTrue nofun
  | v :: items =>
    have := decidableEachTable P v
    have := decidableItems P items
    decidable_of_iff _ List.forall_mem_cons.symm

def decidableEntries (P : List (String × Value) → Prop) [DecidablePred P] :
    (entries : List (String × Value)) → Decidable (∀ e ∈ entries, e.2.EachTable P)
  | [] => .isTrue nofun
  | (_, v) :: entries =>
    have := decidableEachTable P v
    have := decidableEntries P entries
    decidable_of_iff _ List.forall_mem_cons.symm

end

instance [DecidablePred P] : Decidable (v.EachTable P) :=
  decidableEachTable P v

-- No table has two entries of one key.
def Distinct (v : Value) : Prop :=
  v.EachTable fun entries => (entries.map (·.1)).Nodup

instance : Decidable v.Distinct :=
  inferInstanceAs (Decidable (v.EachTable fun entries => (entries.map (·.1)).Nodup))

theorem distinct_table : (table entries).Distinct ↔
    (entries.map (·.1)).Nodup ∧ ∀ e ∈ entries, e.2.Distinct :=
  eachTable_table

end Parts

section Leads

-- The keys lead from the first value to the second one, through one table after the other.
inductive Leads : Value → List String → Value → Prop
  | here (v : Value) : Leads v [] v
  | step {v w : Value} {key : String} {path : List String} {entries : List (String × Value)} :
    (key, v) ∈ entries → Leads v path w → Leads (table entries) (key :: path) w

-- The keys lead to a value that is no table.
structure Leaf (v : Value) (path : List String) (w : Value) : Prop where
  leads     : Leads v path w
  not_table : ∀ entries, w ≠ table entries

theorem leads_nil : Leads v [] w ↔ v = w := by
  constructor
  case mp  => intro h; cases h; rfl
  case mpr => intro h; exact h ▸ .here v

theorem leads_table : Leads (table entries) (key :: path) w ↔
    ∃ x, (key, x) ∈ entries ∧ Leads x path w := by
  constructor
  case mp  => intro h; cases h; exact ⟨_, ‹_›, ‹_›⟩
  case mpr => exact fun ⟨_, hx, h⟩ => .step hx h

theorem not_leads (h : ∀ entries, v ≠ table entries) : ¬Leads v (key :: path) w := by
  intro hl
  cases hl
  exact h _ rfl

theorem leaf_table : Leaf (table entries) path w ↔
    ∃ e ∈ entries, ∃ rest, e.1 :: rest = path ∧ Leaf e.2 rest w := by
  constructor
  case mp =>
    intro ⟨h, hw⟩
    cases h
    case here       => exact absurd rfl (hw entries)
    case step hm hl => exact ⟨_, hm, _, rfl, hl, hw⟩
  case mpr =>
    rintro ⟨e, he, rest, rfl, hl, hw⟩
    exact ⟨.step he hl, hw⟩

theorem leaf_of_not_table (h : ∀ entries, v ≠ table entries) :
    Leaf v path w ↔ path = [] ∧ v = w := by
  constructor
  case mp =>
    intro ⟨hl, _⟩
    cases hl
    case here => exact ⟨rfl, rfl⟩
    case step => exact absurd rfl (h _)
  case mpr =>
    rintro ⟨rfl, rfl⟩
    exact ⟨.here v, h⟩

theorem EachTable.of_leads (h : v.EachTable P) (hl : Leads v path w) : w.EachTable P := by
  induction hl
  case here         => exact h
  case step hm _ hi => exact hi ((eachTable_table.mp h).right _ hm)

theorem mem_iff_get? (h : (entries.map (·.1)).Nodup) :
    (key, w) ∈ entries ↔ (table entries).get? key = some w :=
  (Keyed.lookup_eq_some h).symm

-- Where no key is given twice, each step of the way is a look-up.
theorem Distinct.leads_cons (h : v.Distinct) :
    Leads v (key :: path) w ↔ ∃ x, v.get? key = some x ∧ Leads x path w := by
  cases v
  case table entries =>
    simp only [leads_table, mem_iff_get? (distinct_table.mp h).left]
  all_goals exact ⟨fun hl => absurd hl (not_leads nofun), nofun⟩

theorem Distinct.of_get? (h : v.Distinct) (hw : v.get? key = some w) : w.Distinct := by
  cases v
  case table entries =>
    have ⟨hk, he⟩ := distinct_table.mp h
    exact he _ ((mem_iff_get? hk).mpr hw)
  all_goals cases hw

theorem Distinct.leads_unique (h : v.Distinct) (hw : Leads v path w) (hw' : Leads v path w') :
    w = w' := by
  induction path generalizing v
  case nil => rw [← leads_nil.mp hw, leads_nil.mp hw']
  case cons key path hi =>
    have ⟨x, hx, hw⟩ := h.leads_cons.mp hw
    have ⟨x', hx', hw'⟩ := h.leads_cons.mp hw'
    obtain rfl : x = x' := Option.some.inj (hx.symm.trans hx')
    exact hi (h.of_get? hx) hw hw'

end Leads

end Interpose.Toml.Value
