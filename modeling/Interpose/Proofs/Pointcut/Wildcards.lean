import Mathlib.Data.List.Basic
import Interpose.Pointcut.NamePattern

namespace Interpose.NamePattern

section Pieces

variable {piece next s t : List Char} {pieces : List (List Char)}

theorem cut_eq_splitOn {sep : Char} : cut sep s = s.splitOn sep := by
  induction s
  case nil => rfl
  case cons c s hi =>
    have hs : (c :: s).splitOn sep =
        if c = sep then [] :: s.splitOn sep else (s.splitOn sep).modifyHead (c :: ·) := by
      simp [List.splitOn, List.splitOnP_cons_eq_if_modifyHead]
    rw [cut, hi, hs]
    cases h : s.splitOn sep
    case nil  => simp at h
    case cons => simp

theorem stripPiece_eq_some : stripPiece piece s = some t ↔ s = piece ++ t := by
  induction piece generalizing s
  case nil => simp [stripPiece]
  case cons p piece hi =>
    cases s
    case nil => simp [stripPiece]
    case cons c s =>
      by_cases h : p = c
      case pos => simp [stripPiece, h, hi]
      case neg => simp [stripPiece, h, Ne.symm h]

theorem mem_afterRun_nil : t ∈ afterRun [] ↔ t = [] :=
  List.mem_singleton

theorem mem_afterRun_cons {c : Char} :
    t ∈ afterRun (c :: s) ↔ t = c :: s ∨ c ≠ '\n' ∧ t ∈ afterRun s := by
  by_cases h : c = '\n' <;> simp [afterRun, h]

theorem mem_afterRun : t ∈ afterRun s ↔ ∃ run, s = run ++ t ∧ '\n' ∉ run := by
  induction s
  case nil => simp [mem_afterRun_nil]
  case cons c s hi =>
    rw [mem_afterRun_cons, hi]
    constructor
    case mp =>
      intro h
      cases h
      case inl h => exact ⟨[], h.symm, List.not_mem_nil⟩
      case inr h =>
        have ⟨hc, run, hs, hn⟩ := h
        exact ⟨c :: run, congrArg _ hs, by simp [hc.symm, hn]⟩
    case mpr =>
      intro ⟨run, hs, hn⟩
      cases run
      case nil => exact .inl hs.symm
      case cons =>
        have ⟨hd, hs⟩ := List.cons.inj hs
        simp only [List.mem_cons, not_or] at hn
        exact .inr ⟨hd ▸ Ne.symm hn.left, _, hs, hn.right⟩

theorem piecesMatch_single : piecesMatch [piece] s = true ↔ s = piece := by
  simpa [piecesMatch] using eq_comm

-- A star is tried with all runs that may stand for it.
theorem piecesMatch_afterRun : piecesMatch (piece :: next :: pieces) s = true ↔
    ∃ t, stripPiece piece s = some t ∧ ∃ rest ∈ afterRun t,
      piecesMatch (next :: pieces) rest = true := by
  rw [piecesMatch]
  case x_2 => simp
  cases stripPiece piece s <;> simp

theorem piecesMatch_cons : piecesMatch (piece :: next :: pieces) s = true ↔
    ∃ run rest, s = piece ++ (run ++ rest) ∧ '\n' ∉ run ∧
      piecesMatch (next :: pieces) rest = true := by
  simp only [piecesMatch_afterRun, stripPiece_eq_some, mem_afterRun]
  constructor
  case mp  => exact fun ⟨_, hs, rest, ⟨run, ht, hn⟩, hm⟩ => ⟨run, rest, ht ▸ hs, hn, hm⟩
  case mpr => exact fun ⟨run, rest, hs, hn, hm⟩ => ⟨_, hs, rest, ⟨run, rfl, hn⟩, hm⟩

-- The text is made of the pieces and of runs, in turn.
theorem piecesMatch_iff : piecesMatch (piece :: pieces) s = true ↔
    ∃ runs : List (List Char), runs.length = pieces.length ∧ (∀ run ∈ runs, '\n' ∉ run) ∧
      s = piece ++ (List.zipWith (· ++ ·) runs pieces).flatten := by
  induction pieces generalizing piece s
  case nil => simp [piecesMatch_single]
  case cons next pieces hi =>
    simp only [piecesMatch_cons, hi]
    constructor
    case mp =>
      intro ⟨run, _, hs, hn, runs, hl, hr, hf⟩
      refine ⟨run :: runs, by simp [hl], List.forall_mem_cons.mpr ⟨hn, hr⟩, ?_⟩
      simp [hs, hf]
    case mpr =>
      intro ⟨runs, hl, hr, hf⟩
      cases runs
      case nil => cases hl
      case cons run runs =>
        have ⟨hn, hr⟩ := List.forall_mem_cons.mp hr
        refine ⟨run, _, ?_, hn, runs, Nat.succ.inj hl, hr, rfl⟩
        simpa using hf

end Pieces

section Texts

variable {text name l : String} {ls : List String}

theorem parse_of_not_mem (h : '*' ∉ text.toList) : parse text = exact text := by
  have hn : text ≠ "*" := by
    intro he
    simp [he] at h
  simp [parse, h, hn]

-- A text with stars is read as what stands between them.
theorem parse_intercalate (hl : ls ≠ []) (hp : ∀ piece ∈ l :: ls, '*' ∉ piece.toList)
    (hn : "*".intercalate (l :: ls) ≠ "*") :
    parse ("*".intercalate (l :: ls)) = wildcard ((l :: ls).map (·.toList)) := by
  have hc : '*' ∈ ("*".intercalate (l :: ls)).toList := by
    cases ls
    case nil  => exact absurd rfl hl
    case cons => simp
  have hs : cut '*' ("*".intercalate (l :: ls)).toList = (l :: ls).map (·.toList) := by
    rw [cut_eq_splitOn, String.toList_intercalate]
    apply List.splitOn_intercalate
    · simpa using hp
    · simp
  rw [parse, if_neg hn, if_pos (List.contains_iff_mem.mpr hc), hs]

theorem accepts_exact : (exact text).accepts name = true ↔ name = text := by
  simpa [accepts] using eq_comm

theorem toList_join_zipWith {runs : List String} :
    (String.join (List.zipWith (· ++ ·) runs ls)).toList =
      (List.zipWith (· ++ ·) (runs.map (·.toList)) (ls.map (·.toList))).flatten := by
  simp [List.flatMap, List.map_zipWith, List.zipWith_map]

-- Names and runs as texts.
theorem accepts_pieces : (wildcard ((l :: ls).map (·.toList))).accepts name = true ↔
    ∃ runs : List String, runs.length = ls.length ∧ (∀ run ∈ runs, '\n' ∉ run.toList) ∧
      name = l ++ String.join (List.zipWith (· ++ ·) runs ls) := by
  rw [accepts_wildcard, List.map_cons, piecesMatch_iff]
  constructor
  case mp =>
    intro ⟨runs, hl, hr, hf⟩
    refine ⟨runs.map String.ofList, by simpa using hl, by simpa using hr, ?_⟩
    apply String.toList_inj.mp
    rw [hf, String.toList_append, toList_join_zipWith]
    simp [Function.comp_def]
  case mpr =>
    intro ⟨runs, hl, hr, hf⟩
    refine ⟨runs.map (·.toList), by simpa using hl, by simpa using hr, ?_⟩
    rw [hf, String.toList_append, toList_join_zipWith]

end Texts

-- A lone star accepts every name and a text without stars only itself. Any other text is read as
-- what stands between its stars, whatever these texts are, and accepts just the names that it
-- becomes when a run of characters without a line feed is put in for each star.
theorem wildcards_exact :
    (∀ name, (parse "*").accepts name = true) ∧
    (∀ text name, '*' ∉ text.toList → ((parse text).accepts name = true ↔ name = text)) ∧
    ∀ (l : String) (ls : List String), ls ≠ [] → (∀ piece ∈ l :: ls, '*' ∉ piece.toList) →
      "*".intercalate (l :: ls) ≠ "*" →
        parse ("*".intercalate (l :: ls)) = wildcard ((l :: ls).map (·.toList)) ∧
        ∀ name, (parse ("*".intercalate (l :: ls))).accepts name = true ↔
          ∃ runs : List String, runs.length = ls.length ∧ (∀ run ∈ runs, '\n' ∉ run.toList) ∧
            name = l ++ String.join (List.zipWith (· ++ ·) runs ls) := by
  refine ⟨fun name => ?star, fun text name hs => ?plain, fun l ls hl hp hn => ?stars⟩
  case star  => rfl
  case plain => rw [parse_of_not_mem hs, accepts_exact]
  case stars =>
    have hw := parse_intercalate hl hp hn
    refine ⟨hw, fun name => ?_⟩
    rw [hw, accepts_pieces]

-- Two stars side by side, texts that are no letters, and texts that may not share characters.
theorem wildcards_exact_apart :
    '*' ∉ "a.(".toList ∧ ¬(parse "a.(").accepts "ab(" = true ∧
    ["", "a.(", "$"] ≠ [] ∧ (∀ piece ∈ ["a.", "", "a.(", "$"], '*' ∉ piece.toList) ∧
    "*".intercalate ["a.", "", "a.(", "$"] ≠ "*" ∧
    (parse ("*".intercalate ["a.", "", "a.(", "$"])).accepts "a..a.($$" = true ∧
    (parse ("*".intercalate ["a.", "", "a.(", "$"])).accepts "a.($" = false := by
  have ⟨_, plain, stars⟩ := wildcards_exact
  have hs : '*' ∉ "a.(".toList := by decide
  have hl : ["", "a.(", "$"] ≠ [] := by decide
  have hp : ∀ piece ∈ ["a.", "", "a.(", "$"], '*' ∉ piece.toList := by decide
  have hn : "*".intercalate ["a.", "", "a.(", "$"] ≠ "*" := by decide
  have ⟨_, accepts⟩ := stars "a." ["", "a.(", "$"] hl hp hn
  refine ⟨hs, mt (plain "a.(" "ab(" hs).mp (by decide), hl, hp, hn, ?_, by decide +kernel⟩
  exact (accepts "a..a.($$").mpr ⟨["", ".", "$"], rfl, by decide, by decide⟩

end Interpose.NamePattern
