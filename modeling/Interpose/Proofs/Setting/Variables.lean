import Interpose.Setting.Source
import Interpose.Proofs.Keyed

namespace Interpose.SettingSource

variable {start rest key value : String} {table : List (String × String)} {c d : Char}

-- The character comes back from a key as it was: it is the capital of its own small letter, and it
-- is none of the two that come back as underscores.
structure ReadsBack (c : Char) : Prop where
  ne_dot    : c ≠ '.'
  ne_hyphen : c ≠ '-'
  capital   : (Text.lowerChar c).flatMap Text.upperChar = [c]

section Characters

-- What a character of a key becomes in the name of a variable, if dots have been underscores.
def spelled (d : Char) : List Char :=
  Text.upperChar (if d = '.' ∨ d = '-' then '_' else d)

-- What a character of the name of a variable comes back as.
def returned (c : Char) : List Char :=
  (Text.lowerChar c).flatMap spelled

theorem returned_ne_nil (c : Char) : returned c ≠ [] := by
  have ⟨d, hd⟩ := List.exists_mem_of_ne_nil _ (Text.lowerChar_ne_nil c)
  exact fun h => Text.upperChar_ne_nil _ (List.flatMap_eq_nil_iff.mp h d hd)

theorem returned_eq (hd : c ≠ '.') (hh : c ≠ '-') :
    returned c = (Text.lowerChar c).flatMap Text.upperChar := by
  refine List.flatMap_congr fun d hm => ?_
  have h : ¬(d = '.' ∨ d = '-') := by
    rintro (rfl | rfl)
    case inl => exact hd (Text.eq_of_mem_lowerChar hm (by decide)).symm
    case inr => exact hh (Text.eq_of_mem_lowerChar hm (by decide)).symm
  rw [spelled, if_neg h]

theorem returned_eq_self_iff : returned c = [c] ↔ ReadsBack c := by
  constructor
  case mp =>
    intro h
    have hd : c ≠ '.' := by rintro rfl; exact absurd h (by decide)
    have hh : c ≠ '-' := by rintro rfl; exact absurd h (by decide)
    exact ⟨hd, hh, returned_eq hd hh ▸ h⟩
  case mpr => exact fun ⟨hd, hh, h⟩ => (returned_eq hd hh).trans h

-- Of the characters of ASCII the small letters, the dot and the hyphen do not come back.
theorem readsBack_iff_of_ascii (h : c.toNat < 0x80) :
    ReadsBack c ↔ c ≠ '.' ∧ c ≠ '-' ∧ c.isLower = false := by
  have ascii : ∀ n < 0x80, returned (Char.ofNat n) = [Char.ofNat n] ↔
      Char.ofNat n ≠ '.' ∧ Char.ofNat n ≠ '-' ∧ (Char.ofNat n).isLower = false := by
    decide +kernel
  rw [← returned_eq_self_iff]
  simpa [Char.ofNat_toNat] using ascii c.toNat h

-- If no element vanishes, a list is kept just if each of its elements is.
theorem flatMap_eq_self {α : Type} {f : α → List α} (hf : ∀ a, f a ≠ []) {l : List α} :
    l.flatMap f = l ↔ ∀ a ∈ l, f a = [a] := by
  have hle : ∀ l : List α, l.length ≤ (l.flatMap f).length := by
    intro l
    induction l
    case nil => exact Nat.le_refl 0
    case cons a l hi =>
      have := List.length_pos_of_ne_nil (hf a)
      rw [List.flatMap_cons, List.length_append, List.length_cons]
      omega
  constructor
  case mp =>
    intro h
    induction l
    case nil => exact nofun
    case cons a l hi =>
      rw [List.flatMap_cons] at h
      cases ha : f a
      case nil => exact absurd ha (hf a)
      case cons b bs =>
        rw [ha, List.cons_append] at h
        obtain ⟨rfl, ht⟩ := List.cons.inj h
        have hlen := congrArg List.length ht
        rw [List.length_append] at hlen
        have := hle l
        obtain rfl : bs = [] := List.eq_nil_of_length_eq_zero (by omega)
        exact List.forall_mem_cons.mpr ⟨ha, hi ht⟩
  case mpr =>
    intro h
    rw [List.flatMap_congr h]
    exact List.flatMap_singleton' l

end Characters

section Names

theorem behind_append (start rest : String) : behind start (start ++ rest) = rest := by
  simp [behind, ← String.length_toList]

theorem isPrefixOf_iff {name : String} :
    start.toList.isPrefixOf name.toList ↔ ∃ rest, start ++ rest = name := by
  rw [List.isPrefixOf_iff_prefix]
  constructor
  case mp =>
    intro ⟨cs, h⟩
    exact ⟨String.ofList cs, String.toList_injective (by simp [h])⟩
  case mpr =>
    rintro ⟨rest, rfl⟩
    simp

theorem variableOfKey_eq (start key : String) :
    variableOfKey start key = start ++ String.ofList (key.toList.flatMap spelled) := by
  simp only [variableOfKey, Text.upper, replaceChars, String.toList_ofList, List.flatMap_map,
    Bool.or_eq_true, beq_iff_eq]
  rfl

-- It makes no difference to the name of the variable that underscores have become dots.
theorem flatMap_spelled_dotted (s : String) :
    (replaceChars (· == '_') '.' s).toList.flatMap spelled = s.toList.flatMap spelled := by
  rw [replaceChars, String.toList_ofList, List.flatMap_map]
  refine List.flatMap_congr fun d _ => ?_
  by_cases h : d = '_' <;> simp [spelled, h]

theorem variableOfKey_keyOfVariable (start rest : String) :
    variableOfKey start (keyOfVariable start (start ++ rest)) =
      start ++ String.ofList (rest.toList.flatMap returned) := by
  have hs : spelled 'ς' = spelled 'σ' := by decide
  rw [variableOfKey_eq, keyOfVariable, behind_append, flatMap_spelled_dotted,
    Text.flatMap_toList_lower hs]
  rfl

theorem variableOfKey_eq_iff : variableOfKey start (keyOfVariable start (start ++ rest)) =
    start ++ rest ↔ ∀ c ∈ rest.toList, ReadsBack c := by
  rw [variableOfKey_keyOfVariable, String.append_right_inj, ← String.toList_inj,
    String.toList_ofList, flatMap_eq_self returned_ne_nil]
  exact forall₂_congr fun _ _ => returned_eq_self_iff

end Names

theorem mem_keys_ofVariables : key ∈ (ofVariables start table).keys ↔
    ∃ rest value, (start ++ rest, value) ∈ table ∧ keyOfVariable start (start ++ rest) = key := by
  simp only [ofVariables, List.mem_map, List.mem_filter, isPrefixOf_iff, Prod.exists]
  constructor
  case mp =>
    rintro ⟨_, value, ⟨hm, rest, rfl⟩, rfl⟩
    exact ⟨rest, value, hm, rfl⟩
  case mpr =>
    rintro ⟨rest, value, hm, rfl⟩
    exact ⟨_, value, ⟨hm, rest, rfl⟩, rfl⟩

theorem get?_ofVariables_of_readsBack (hd : (table.map (·.1)).Nodup)
    (hm : (start ++ rest, value) ∈ table) (h : ∀ c ∈ rest.toList, ReadsBack c) :
    (ofVariables start table).get? (keyOfVariable start (start ++ rest)) = some (.text value) := by
  have hl := (Keyed.lookup_eq_some hd).mpr hm
  simp only [ofVariables, variableOfKey_eq_iff.mpr h, hl, Option.map_some]

-- Every variable that begins with the text is listed by one key. The key leads back to the variable
-- just if all that is behind the beginning comes back as it was, and then it has its value.
theorem listed_keys_read (start : String) {table : List (String × String)}
    (hd : (table.map (·.1)).Nodup) :
    (∀ key, key ∈ (ofVariables start table).keys ↔ ∃ rest value,
      (start ++ rest, value) ∈ table ∧ keyOfVariable start (start ++ rest) = key) ∧
    ∀ rest value, (start ++ rest, value) ∈ table →
      (variableOfKey start (keyOfVariable start (start ++ rest)) = start ++ rest ↔
        ∀ c ∈ rest.toList, ReadsBack c) ∧
      ((∀ c ∈ rest.toList, ReadsBack c) →
        (ofVariables start table).get? (keyOfVariable start (start ++ rest)) =
          some (.text value)) :=
  ⟨fun _ => mem_keys_ofVariables, fun _ _ hm =>
    ⟨variableOfKey_eq_iff, get?_ofVariables_of_readsBack hd hm⟩⟩

theorem listed_keys_read_capitals :
    ([("HOME", "/"), ("WEFT_ÜBER_2", "on"), ("WEFT_aop", "off")].map (·.1)).Nodup ∧
    (∀ c ∈ "ÜBER_2".toList, ReadsBack c) ∧
    (ofVariables "WEFT_" [("HOME", "/"), ("WEFT_ÜBER_2", "on"), ("WEFT_aop", "off")]).get?
      "über.2" = some (.text "on") := by
  have hd : ([("HOME", "/"), ("WEFT_ÜBER_2", "on"), ("WEFT_aop", "off")].map (·.1)).Nodup := by
    decide
  have hk : keyOfVariable "WEFT_" ("WEFT_" ++ "ÜBER_2") = "über.2" := by decide +kernel
  have hr : "ÜBER_2".toList.map returned = "ÜBER_2".toList.map fun c => [c] := by decide +kernel
  have hb : ∀ c ∈ "ÜBER_2".toList, ReadsBack c := fun c hc =>
    returned_eq_self_iff.mp (List.map_inj_left.mp hr c hc)
  refine ⟨hd, hb, ?_⟩
  rw [← hk]
  exact ((listed_keys_read "WEFT_" hd).right "ÜBER_2" "on" (by decide)).right hb

-- A variable in small letters is listed, but its key asks for one in capitals.
theorem small_letters_unread :
    "aop" ∈ (ofVariables "WEFT_" [("WEFT_aop", "off")]).keys ∧
    variableOfKey "WEFT_" (keyOfVariable "WEFT_" "WEFT_aop") = "WEFT_AOP" ∧
    (ofVariables "WEFT_" [("WEFT_aop", "off")]).get? "aop" = none := by
  have hl : [("WEFT_aop", "off")].lookup (variableOfKey "WEFT_" "aop") = none := by decide +kernel
  refine ⟨by decide +kernel, by decide +kernel, ?_⟩
  simp only [ofVariables, hl, Option.map_none]

end Interpose.SettingSource
