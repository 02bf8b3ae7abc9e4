import Interpose.Toml.Section
import Interpose.Proofs.Toml.Table

namespace Interpose.Toml

section Nodes

variable {es es' : Entries} {key : String} {n : Node}

theorem valuesOf_eq (es : Entries) : valuesOf es = es.map fun e => (e.1, e.2.value) := by
  induction es
  case nil          => rfl
  case cons e es hi => rw [valuesOf, hi, List.map_cons]

theorem tablesOf_eq (items : List Entries) : tablesOf items = items.map Entries.value := by
  induction items
  case nil              => rfl
  case cons es items hi => rw [tablesOf, hi, List.map_cons]; rfl

namespace Entries

-- No table among the entries has two entries of one key, and neither have they.
def Distinct (es : Entries) : Prop :=
  es.value.Distinct

theorem distinct_iff :
    es.Distinct ↔ (es.map (·.1)).Nodup ∧ ∀ e ∈ es, e.2.value.Distinct := by
  rw [Distinct, value, Node.value, Value.distinct_table, valuesOf_eq, List.map_map,
    List.forall_mem_map]
  rfl

theorem distinct_nil : Distinct [] :=
  distinct_iff.mpr ⟨List.nodup_nil, nofun⟩

theorem distinct_table {implicit dotted : Bool} :
    (Node.table implicit dotted es).value.Distinct ↔ es.Distinct :=
  Iff.rfl

theorem distinct_tables {items : List Entries} :
    (Node.tables items).value.Distinct ↔ ∀ es ∈ items, es.Distinct := by
  rw [Node.value, Value.Distinct, Value.eachTable_array, tablesOf_eq, List.forall_mem_map]
  rfl

theorem Distinct.of_lookup (h : es.Distinct) (hn : es.lookup key = some n) : n.value.Distinct := by
  have ⟨hk, hv⟩ := distinct_iff.mp h
  exact hv _ ((Keyed.lookup_eq_some hk).mp hn)

theorem Distinct.concat (h : es.Distinct) (hk : es.lookup key = none) (hn : n.value.Distinct) :
    Distinct (es ++ [(key, n)]) := by
  have ⟨hd, hv⟩ := distinct_iff.mp h
  have hm : key ∉ es.map (·.1) := by
    intro hm
    obtain ⟨e, he, rfl⟩ := List.mem_map.mp hm
    simpa using List.lookup_eq_none_iff.mp hk e he
  refine distinct_iff.mpr ⟨?_, ?_⟩
  case refine_1 =>
    rw [List.map_append]
    exact hd.append (List.nodup_singleton key) (by simpa using hm)
  case refine_2 => exact List.forall_mem_append.mpr ⟨hv, by simpa using hn⟩

theorem Distinct.put (h : es.Distinct) (key : String) (hn : n.value.Distinct) :
    (es.put key n).Distinct := by
  have ⟨hd, hv⟩ := distinct_iff.mp h
  refine distinct_iff.mpr ⟨?_, ?_⟩
  case refine_1 =>
    have hk : (es.put key n).map (·.1) = es.map (·.1) := by
      rw [Entries.put, List.map_map]
      refine List.map_congr_left fun e _ => ?_
      by_cases he : e.1 = key <;> simp [he]
    exact hk ▸ hd
  case refine_2 =>
    rw [Entries.put, List.forall_mem_map]
    intro e he
    split
    case isTrue  => exact hn
    case isFalse => exact hv e he

theorem Distinct.filter (h : es.Distinct) (p : String × Node → Bool) :
    Distinct (es.filter p) := by
  have ⟨hd, hv⟩ := distinct_iff.mp h
  refine distinct_iff.mpr ⟨hd.sublist (List.filter_sublist.map _), fun e he => hv e ?_⟩
  exact (List.mem_filter.mp he).left

-- A change keeps the keys apart everywhere if it does so in the table where it is made.
theorem Distinct.change {dotted : Bool} {f : Bool → Entries → Option Entries}
    (hf : ∀ {made es es'}, Entries.Distinct es → f made es = some es' → Entries.Distinct es')
    {path : List String} {made : Bool} (hd : es.Distinct)
    (h : Entries.change dotted f path made es = some es') : es'.Distinct := by
  induction path generalizing made es es'
  case nil => exact hf hd h
  case cons key path hi =>
    rw [Entries.change] at h
    split at h
    case h_1 hl =>
      obtain ⟨sub, hs, rfl⟩ := Option.map_eq_some_iff.mp h
      exact hd.concat hl (hi distinct_nil hs)
    case h_2 => cases h
    case h_3 made sub hl =>
      split at h
      case isTrue  => cases h
      case isFalse =>
        obtain ⟨sub', hs, rfl⟩ := Option.map_eq_some_iff.mp h
        have hsub := distinct_table.mp (hd.of_lookup hl)
        exact hd.put key (distinct_table.mpr (hi hsub hs))
    case h_4 items hl =>
      have hitems := distinct_tables.mp (hd.of_lookup hl)
      split at h
      case h_1 => cases h
      case h_2 last hlast =>
        obtain ⟨last', hs, rfl⟩ := Option.map_eq_some_iff.mp h
        have hlast' := hi (hitems last (List.mem_of_getLast? hlast)) hs
        refine hd.put key (distinct_tables.mpr ?_)
        rw [List.forall_mem_append]
        exact ⟨fun es he => hitems es (List.dropLast_subset items he), by simpa using hlast'⟩

theorem Distinct.add {path : List String} {v : Value} (hd : es.Distinct) (hv : v.Distinct)
    (h : Entries.add path key v es = some es') : es'.Distinct := by
  refine hd.change ?_ h
  intro made es es' hd h
  split at h
  case isTrue     => cases h
  case isFalse hn =>
    cases h
    rw [Bool.or_eq_true, not_or, Bool.not_eq_true, Bool.not_eq_true, Option.isSome_eq_false_iff,
      Option.isNone_iff_eq_none] at hn
    exact hd.concat hn.right hv

theorem Distinct.addAll {pairs : List (List String × String × Value)} (hd : es.Distinct)
    (hp : ∀ e ∈ pairs, e.2.2.Distinct)
    (h : pairs.foldlM (fun es e => Entries.add e.1 e.2.1 e.2.2 es) es = some es') :
    es'.Distinct := by
  induction pairs generalizing es
  case nil => cases h; exact hd
  case cons e pairs hi =>
    have ⟨hv, hp⟩ := List.forall_mem_cons.mp hp
    rw [List.foldlM_cons] at h
    obtain ⟨es₁, ha, h⟩ := Option.bind_eq_some_iff.mp h
    exact hi (hd.add hv ha) hp h

theorem Distinct.erase {path : List String} (hd : es.Distinct)
    (h : Entries.change false (fun _ es => some (es.filter (·.1 != key))) path false es =
      some es') : es'.Distinct := by
  refine hd.change ?_ h
  intro _ es es' he h
  cases h
  exact he.filter _

end Entries

end Nodes

namespace Draft

variable {d d' : Draft} {es root : Entries} {path : List String} {key : String} {n : Node}

-- No table that has been read so far has two entries of one key.
structure Distinct (d : Draft) : Prop where
  root    : d.root.Distinct
  current : d.current.Distinct

theorem distinct_empty : empty.Distinct :=
  ⟨Entries.distinct_nil, Entries.distinct_nil⟩

theorem Distinct.close (hd : d.Distinct) (h : d.close = some es) : es.Distinct := by
  rw [Draft.close] at h
  split at h
  case h_1 => cases h; exact hd.current
  case h_2 key _ =>
    refine hd.root.change ?_ h
    intro _ es es' he h
    split at h
    case h_1 hl =>
      cases h
      exact he.concat hl (Entries.distinct_tables.mpr (by simpa using hd.current))
    case h_2 items hl =>
      cases h
      have hi := Entries.distinct_tables.mp (he.of_lookup hl)
      refine he.put key (Entries.distinct_tables.mpr ?_)
      exact List.forall_mem_append.mpr ⟨hi, by simpa using hd.current⟩
    case h_3 hl =>
      cases h
      exact he.concat hl (Entries.distinct_table.mpr hd.current)
    case h_4 => cases h

theorem distinct_found (hr : root.Distinct) (h : found root path key = some n) :
    n.value.Distinct := by
  induction path generalizing root
  case nil => exact hr.of_lookup h
  case cons first path hi =>
    rw [found] at h
    split at h
    case h_1 hl => exact hi (Entries.distinct_table.mp (hr.of_lookup hl)) h
    case h_2 items hl =>
      obtain ⟨last, hlast, h⟩ := Option.bind_eq_some_iff.mp h
      exact hi (Entries.distinct_tables.mp (hr.of_lookup hl) last (List.mem_of_getLast? hlast)) h
    case h_3 => cases h

theorem Distinct.openTable (hd : d.Distinct) (h : d.openTable path = some d') : d'.Distinct := by
  simp only [Draft.openTable, Option.bind_eq_bind, Option.bind_eq_some_iff] at h
  obtain ⟨root, hc, key, -, h⟩ := h
  have hr := hd.close hc
  split at h
  case h_1 =>
    rw [Option.bind_some] at h
    obtain ⟨root', he, h⟩ := Option.bind_eq_some_iff.mp h
    cases h
    exact ⟨hr.erase he, Entries.distinct_nil⟩
  case h_2 sub hf =>
    rw [Option.bind_some] at h
    obtain ⟨root', he, h⟩ := Option.bind_eq_some_iff.mp h
    cases h
    exact ⟨hr.erase he, Entries.distinct_table.mp (distinct_found hr hf)⟩
  case h_3 => cases h

theorem Distinct.openItem (hd : d.Distinct) (h : d.openItem path = some d') : d'.Distinct := by
  simp only [Draft.openItem, Option.bind_eq_bind, Option.bind_eq_some_iff] at h
  obtain ⟨root, hc, key, -, root', he, h⟩ := h
  cases h
  refine ⟨(hd.close hc).change ?_ he, Entries.distinct_nil⟩
  intro _ es es' hes h
  split at h
  case h_1 => cases h; exact hes
  case h_2 => cases h; exact hes
  case h_3 => cases h

theorem Distinct.add {v : Value} (hd : d.Distinct) (hv : v.Distinct)
    (h : d.add path key v = some d') : d'.Distinct := by
  obtain ⟨current, hc, rfl⟩ := Option.map_eq_some_iff.mp h
  exact ⟨hd.root, hd.current.add hv hc⟩

end Draft

end Interpose.Toml
