import Interpose.Setting.Source
import Interpose.Proofs.Table
import Interpose.Proofs.Toml.Table

namespace Interpose

namespace SettingSource

open Toml.Value (Leads Leaf EachTable Distinct)

variable {v w : Toml.Value} {entries : List (String × Toml.Value)} {path : List String}
variable {start key : String}

section Leaves

mutual

-- The values of a document that are no tables, under their dotted keys.
def leaves (start : String) : Toml.Value → List (String × Toml.Value)
  | .table entries => leavesOf start entries
  | v => [(start, v)]

def leavesOf (start : String) : List (String × Toml.Value) → List (String × Toml.Value)
  | [] => []
  | (key, v) :: rest => leaves (keyBelow start key) v ++ leavesOf start rest

end

-- The dotted key that the keys on the way to a value make.
def dottedKey (path : List String) : String :=
  path.foldl keyBelow ""

theorem leaves_table (start : String) (entries : List (String × Toml.Value)) :
    leaves start (.table entries) = entries.flatMap fun e => leaves (keyBelow start e.1) e.2 := by
  rw [leaves]
  induction entries
  case nil => rfl
  case cons e entries hi => rw [leavesOf, hi, List.flatMap_cons]

theorem leaves_of_not_table (h : ∀ entries, v ≠ .table entries) :
    leaves start v = [(start, v)] := by
  cases v
  case table entries => exact absurd rfl (h entries)
  all_goals rfl

theorem mem_leaves_of_not_table (h : ∀ entries, v ≠ .table entries) :
    (key, w) ∈ leaves start v ↔ ∃ path, Leaf v path w ∧ path.foldl keyBelow start = key := by
  simp [leaves_of_not_table h, Toml.Value.leaf_of_not_table h, and_comm, eq_comm]

theorem mem_leaves : (key, w) ∈ leaves start v ↔
    ∃ path, Leaf v path w ∧ path.foldl keyBelow start = key := by
  induction v using Toml.Value.induction generalizing start
  case atom v hv     => exact mem_leaves_of_not_table (by rintro _ rfl; exact hv)
  case array items _ => exact mem_leaves_of_not_table nofun
  case table entries hi =>
    simp only [leaves_table, List.mem_flatMap, Toml.Value.leaf_table]
    constructor
    case mp =>
      intro ⟨e, he, hw⟩
      have ⟨path, hl, hk⟩ := (hi e he).mp hw
      exact ⟨e.1 :: path, ⟨e, he, path, rfl, hl⟩, hk⟩
    case mpr =>
      rintro ⟨_, ⟨e, he, path, rfl, hl⟩, hk⟩
      exact ⟨e, he, (hi e he).mpr ⟨path, hl, hk⟩⟩

-- Flattening puts the values that are no tables into the settings one after the other.
theorem flatten_eq (start : String) (v : Toml.Value) (found : Settings) : flatten start v found =
    setEntries found ((leaves start v).map fun e => (e.1, settingOf e.2)) := by
  induction v using Toml.Value.induction generalizing start found
  case atom v hv => cases v <;> first | rfl | cases hv
  case array     => rfl
  case table entries hi =>
    rw [flatten, leaves_table]
    induction entries generalizing found
    case nil => rfl
    case cons e entries hj =>
      have ⟨he, hi⟩ := List.forall_mem_cons.mp hi
      rw [flattenEntries, hj hi, he, List.flatMap_cons, List.map_append, setEntries, setEntries,
        ← List.foldl_append]
      rfl

theorem keys_flatten : key ∈ (flatten "" v []).map (·.1) ↔
    ∃ path w, Leaf v path w ∧ dottedKey path = key := by
  rw [flatten_eq, mem_keys_setEntries, List.map_map]
  simp [mem_leaves, dottedKey, exists_comm]

theorem nodup_flatten (v : Toml.Value) : ((flatten "" v []).map (·.1)).Nodup := by
  rw [flatten_eq]
  exact nodup_setEntries List.nodup_nil

-- A value is found under its dotted key unless another value has the same one.
theorem lookup_flatten (hl : Leaf v path w)
    (hu : ∀ path' w', Leaf v path' w' → dottedKey path' = dottedKey path → w' = w) :
    (flatten "" v []).lookup (dottedKey path) = some (settingOf w) := by
  have h : ∀ e ∈ (leaves "" v).map (fun e => (e.1, settingOf e.2)), e.1 = dottedKey path →
      e.2 = settingOf w := by
    intro e he hk
    obtain ⟨⟨key, w'⟩, hm, rfl⟩ := List.mem_map.mp he
    have ⟨path', hl', hk'⟩ := mem_leaves.mp hm
    exact congrArg settingOf (hu path' w' hl' (hk'.trans hk))
  rw [flatten_eq, lookup_setEntries h, if_pos]
  rw [List.map_map]
  exact List.mem_map.mpr ⟨(dottedKey path, w), mem_leaves.mpr ⟨path, hl, rfl⟩, rfl⟩

end Leaves

section Conversion

-- What a value of a document is as a setting: arrays and tables are converted part by part, and
-- moments become their texts.
inductive Stands : Toml.Value → Setting → Prop
  | text (s : String) : Stands (.text s) (.text s)
  | integer (n : Int) : Stands (.integer n) (.integer n)
  | float (bits : UInt64) : Stands (.float bits) (.float bits)
  | boolean (b : Bool) : Stands (.boolean b) (.boolean b)
  | moment (d : Toml.DateTime) : Stands (.moment d) (.text d.text)
  | array {items : List Toml.Value} {settings : List Setting} : List.Forall₂ Stands items settings →
    Stands (.array items) (.array settings)
  | table {entries : List (String × Toml.Value)} {fields : Settings} :
    entries.map (·.1) = fields.map (·.1) →
    List.Forall₂ Stands (entries.map (·.2)) (fields.map (·.2)) →
    Stands (.table entries) (.object fields)

theorem settingsOf_eq (items : List Toml.Value) : settingsOf items = items.map settingOf := by
  induction items
  case nil             => rfl
  case cons v items hi => rw [settingsOf, hi, List.map_cons]

theorem fieldsOf_eq (entries : List (String × Toml.Value)) :
    fieldsOf entries = entries.map fun e => (e.1, settingOf e.2) := by
  induction entries
  case nil               => rfl
  case cons e entries hi => rw [fieldsOf, hi, List.map_cons]

theorem stands_settingOf (v : Toml.Value) : Stands v (settingOf v) := by
  induction v using Toml.Value.induction
  case atom v hv =>
    cases v
    case array => cases hv
    case table => cases hv
    all_goals constructor
  case array items hi =>
    rw [settingOf, settingsOf_eq]
    refine .array ?_
    rw [List.forall₂_map_right_iff, List.forall₂_same]
    exact hi
  case table entries hi =>
    rw [settingOf, fieldsOf_eq]
    refine .table (by simp) ?_
    rw [List.map_map, List.forall₂_map_left_iff, List.forall₂_map_right_iff, List.forall₂_same]
    exact hi

end Conversion

section Keys

-- No key in the value is empty or has a dot in it.
def PlainKeys (v : Toml.Value) : Prop :=
  v.EachTable fun entries => ∀ e ∈ entries, e.1 ≠ "" ∧ '.' ∉ e.1.toList

instance : Decidable (PlainKeys v) :=
  inferInstanceAs (Decidable (v.EachTable _))

theorem PlainKeys.of_leads (h : PlainKeys v) (hl : Leads v path w) :
    ∀ key ∈ path, key ≠ "" ∧ '.' ∉ key.toList := by
  induction hl
  case here => exact nofun
  case step hm _ hi =>
    have ⟨he, hes⟩ := Toml.Value.eachTable_table.mp h
    exact List.forall_mem_cons.mpr ⟨he _ hm, hi (hes _ hm)⟩

theorem foldl_keyBelow (hs : start ≠ "") (path : List String) :
    path.foldl keyBelow start = ".".intercalate (start :: path) := by
  induction path generalizing start
  case nil => simp
  case cons key path hi =>
    have hk : keyBelow start key = start ++ "." ++ key := by simp [keyBelow, hs]
    have hn : start ++ "." ++ key ≠ "" := by simp [hs]
    rw [List.foldl_cons, hk, hi hn, String.intercalate_cons_cons, String.intercalate_cons_append]

theorem dottedKey_eq (h : ∀ key ∈ path, key ≠ "") : dottedKey path = ".".intercalate path := by
  cases path
  case nil => rfl
  case cons key path => exact foldl_keyBelow (h key List.mem_cons_self) path

-- Keys without dots are told apart in the texts they make.
theorem intercalate_injective {path' : List String} (hp : path ≠ []) (hp' : path' ≠ [])
    (hk : ∀ key ∈ path, '.' ∉ key.toList) (hk' : ∀ key ∈ path', '.' ∉ key.toList)
    (h : ".".intercalate path = ".".intercalate path') : path = path' := by
  have split : ∀ {p : List String}, p ≠ [] → (∀ key ∈ p, '.' ∉ key.toList) →
      (".".intercalate p).toList.splitOn '.' = p.map String.toList := by
    intro p hn hk
    rw [String.toList_intercalate]
    exact List.splitOn_intercalate '.' (by simpa using hk) (by simpa using hn)
  have hm := congrArg (fun s : String => s.toList.splitOn '.') h
  simp only [split hp hk, split hp' hk'] at hm
  exact List.map_injective_iff.mpr (fun _ _ => String.toList_injective) hm

end Keys

-- The source has just the values of the document that are no tables, each under one key: the keys
-- that lead to it with dots between them.
structure Mirrors (s : SettingSource) (document : Toml.Value) : Prop where
  nodup_keys : s.keys.Nodup
  mem_keys   : ∀ key, key ∈ s.keys ↔ ∃ path w, Leaf document path w ∧ ".".intercalate path = key
  apart      : ∀ path path' w w', Leaf document path w → Leaf document path' w' →
    ".".intercalate path = ".".intercalate path' → path = path' ∧ w = w'
  get        : ∀ path w, Leaf document path w →
    ∃ v, Stands w v ∧ s.get? (".".intercalate path) = some v
  get_other  : ∀ key, key ∉ s.keys → s.get? key = none

-- Nothing of a document is lost or made up in its settings.
theorem flatten_lossless (hd : (Toml.Value.table entries).Distinct)
    (hk : PlainKeys (.table entries)) (name : String) (priority : Int) :
    Mirrors (ofSettings name priority (flatten "" (.table entries) [])) (.table entries) := by
  have hp : ∀ {path w}, Leaf (.table entries) path w → dottedKey path = ".".intercalate path :=
    fun h => dottedKey_eq fun key hm => (hk.of_leads h.leads key hm).left
  have apart : ∀ path path' w w', Leaf (.table entries) path w → Leaf (.table entries) path' w' →
      ".".intercalate path = ".".intercalate path' → path = path' ∧ w = w' := by
    intro path path' w w' h h' he
    have hn : ∀ {path w}, Leaf (.table entries) path w → path ≠ [] := by
      rintro _ _ hl rfl
      exact hl.not_table entries (Toml.Value.leads_nil.mp hl.leads).symm
    obtain rfl := intercalate_injective (hn h) (hn h')
      (fun key hm => (hk.of_leads h.leads key hm).right)
      (fun key hm => (hk.of_leads h'.leads key hm).right) he
    exact ⟨rfl, hd.leads_unique h.leads h'.leads⟩
  constructor
  case nodup_keys => exact nodup_flatten _
  case mem_keys   =>
    intro key
    rw [ofSettings, keys_flatten]
    exact exists₂_congr fun path w => and_congr_right fun h => by rw [hp h]
  case apart      => exact apart
  case get        =>
    intro path w h
    refine ⟨settingOf w, stands_settingOf w, ?_⟩
    rw [← hp h]
    refine lookup_flatten h fun path' w' h' he => ?_
    exact (apart path' path w' w h' h (hp h' ▸ hp h ▸ he)).right
  case get_other  =>
    exact fun key hm => List.lookup_eq_none_iff.mpr fun e he =>
      bne_iff_ne.mpr fun hk => hm (hk ▸ List.mem_map_of_mem he)

def nestedDocument : List (String × Toml.Value) :=
  [("level", .integer 3), ("weft", .table [("aop", .table [("enabled", .text "off")]),
    ("day", .moment ⟨some ⟨2026, 2, 28⟩, none, none⟩), ("empty", .table []),
    ("ports", .array [.integer 80, .table [("tls", .boolean true)]])])]

theorem flatten_lossless_nested :
    (Toml.Value.table nestedDocument).Distinct ∧ PlainKeys (.table nestedDocument) ∧
    Mirrors (ofSettings "t.toml" 0 (flatten "" (.table nestedDocument) []))
      (.table nestedDocument) := by
  have hd : (Toml.Value.table nestedDocument).Distinct := by decide
  have hk : PlainKeys (.table nestedDocument) := by decide
  exact ⟨hd, hk, flatten_lossless hd hk "t.toml" 0⟩

end SettingSource

end Interpose
