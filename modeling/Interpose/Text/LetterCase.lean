import Interpose.Text.LetterCase.Table

namespace Interpose.Text

private def otherCase (expansions : List (Nat × List Nat)) (runs : List CaseRun) (c : Char) :
    List Char :=
  match expansions.lookup c.toNat with
  | some codes => codes.map Char.ofNat
  | none => [((runs.findSome? (·.image? c.toNat)).map Char.ofNat).getD c]

def lowerChar (c : Char) : List Char :=
  if c.toNat < 0x80 then [c.toLower] else otherCase lowerExpansions lowerRuns c

def upperChar (c : Char) : List Char :=
  if c.toNat < 0x80 then [c.toUpper] else otherCase upperExpansions upperRuns c

-- The nearest character that is not passed over is a letter with a case.
private def nearestIsCased (cs : List Char) : Bool :=
  match cs.dropWhile (inRanges caseIgnorableRanges ·.toNat) with
  | [] => false
  | c :: _ => inRanges casedRanges c.toNat

private def lowerAfter (before : List Char) : List Char → List Char
  | [] => []
  | c :: rest =>
    let small :=
      if c == 'Σ' then
        if nearestIsCased before && !nearestIsCased rest then ['ς'] else ['σ']
      else lowerChar c
    small ++ lowerAfter (c :: before) rest

-- A capital sigma that ends a word becomes the final small sigma.
def lower (s : String) : String := String.ofList (lowerAfter [] s.toList)

def upper (s : String) : String := String.ofList (s.toList.flatMap upperChar)

-- Lower case of the letters A to Z, every other character being kept.
def lowerAscii (s : String) : String := String.ofList (s.toList.map Char.toLower)

-- Every character has another case, of one character or more.
private theorem otherCase_ne_nil {expansions : List (Nat × List Nat)} {runs : List CaseRun}
    (he : expansions.all (!·.2.isEmpty)) (c : Char) : otherCase expansions runs c ≠ [] := by
  rw [otherCase]
  split
  case h_1 codes h =>
    obtain ⟨before, after, rfl, -⟩ := List.lookup_eq_some_iff.mp h
    simp_all
  case h_2 => exact List.cons_ne_nil _ _

theorem lowerChar_ne_nil (c : Char) : lowerChar c ≠ [] := by
  rw [lowerChar]
  split
  case isTrue  => exact List.cons_ne_nil _ _
  case isFalse => exact otherCase_ne_nil (by decide) c

theorem upperChar_ne_nil (c : Char) : upperChar c ≠ [] := by
  rw [upperChar]
  split
  case isTrue  => exact List.cons_ne_nil _ _
  case isFalse => exact otherCase_ne_nil (by decide) c

-- The small letters of a run are characters and come behind the capitals A to Z.
private theorem lowerRuns_bounds : ∀ r ∈ lowerRuns, 0x5a < r.first + r.shift ∧
    (r.last + r.shift < 0xd800 ∨ 0xdfff < r.first + r.shift ∧ r.last + r.shift < 0x110000) := by
  decide +kernel

private theorem toNat_of_run {r : CaseRun} (hr : r ∈ lowerRuns) {n m : Nat}
    (h : r.image? n = some m) : 0x5a < (Char.ofNat m).toNat := by
  have hb := lowerRuns_bounds r hr
  simp only [CaseRun.image?, Option.ite_none_right_eq_some, Option.some.injEq, Bool.and_eq_true,
    decide_eq_true_eq] at h
  have hm : 0x5a < m := by omega
  have hv : m.isValidChar := by
    rw [Nat.isValidChar]
    omega
  rw [Char.ofNat, dif_pos hv]
  exact hm

-- What comes before the small letters is the small form of nothing else.
theorem eq_of_mem_lowerChar {c d : Char} (hd : d ∈ lowerChar c) (h : d.toNat ≤ 0x5a) : d = c := by
  rw [lowerChar] at hd
  split at hd
  case isTrue hc =>
    have ascii : ∀ n < 0x80, (Char.ofNat n).toLower.toNat ≤ 0x5a →
        (Char.ofNat n).toLower = Char.ofNat n := by decide
    rw [List.mem_singleton.mp hd] at h ⊢
    simpa [Char.ofNat_toNat] using ascii c.toNat hc (by simpa [Char.ofNat_toNat] using h)
  case isFalse =>
    rw [otherCase] at hd
    split at hd
    case h_1 codes hl =>
      have behind : ∀ e ∈ lowerExpansions, ∀ n ∈ e.2, 0x5a < (Char.ofNat n).toNat := by decide
      obtain ⟨before, after, he, -⟩ := List.lookup_eq_some_iff.mp hl
      obtain ⟨n, hn, rfl⟩ := List.mem_map.mp hd
      have := behind (c.toNat, codes) (he ▸ by simp) n hn
      omega
    case h_2 =>
      cases hf : lowerRuns.findSome? (·.image? c.toNat) <;> rw [hf] at hd
      case none => exact List.mem_singleton.mp hd
      case some m =>
        obtain ⟨r, hr, hm⟩ := List.exists_of_findSome?_eq_some hf
        have := toNat_of_run hr hm
        rw [List.mem_singleton.mp hd] at h
        simp at h
        omega

-- The small sigmas at the end of a word and elsewhere come from one letter.
theorem flatMap_toList_lower {α : Type} {f : Char → List α} (hf : f 'ς' = f 'σ') (s : String) :
    (lower s).toList.flatMap f = s.toList.flatMap fun c => (lowerChar c).flatMap f := by
  have h : ∀ before cs, (lowerAfter before cs).flatMap f =
      cs.flatMap fun c => (lowerChar c).flatMap f := by
    intro before cs
    induction cs generalizing before
    case nil => rfl
    case cons c cs hi =>
      rw [lowerAfter, List.flatMap_append, hi, List.flatMap_cons]
      congr 1
      split
      case isTrue hc =>
        have hs : lowerChar 'Σ' = ['σ'] := by decide
        rw [eq_of_beq hc, hs]
        split <;> simp [hf]
      case isFalse => rfl
  rw [lower, String.toList_ofList, h]

end Interpose.Text
