namespace Interpose

-- A star stands for any run of characters within a line.
inductive NamePattern where
  | any
  | exact (name : String)
  -- The literal pieces between the stars, in order; there are at least two.
  | wildcard (pieces : List (List Char))
  deriving DecidableEq, Repr

namespace NamePattern

def cut (sep : Char) : List Char → List (List Char)
  | [] => [[]]
  | c :: rest =>
    match cut sep rest with
    | [] => [[c]]
    | piece :: pieces => if c = sep then [] :: piece :: pieces else (c :: piece) :: pieces

def parse (text : String) : NamePattern :=
  if text = "*" then any
  else if text.toList.contains '*' then wildcard (cut '*' text.toList)
  else exact text

-- What may be left of a text behind a run of characters within a line.
def afterRun : List Char → List (List Char)
  | [] => [[]]
  | c :: rest => (c :: rest) :: if c = '\n' then [] else afterRun rest

-- The rest of a text behind a piece that it begins with.
def stripPiece : List Char → List Char → Option (List Char)
  | [], s => some s
  | _ :: _, [] => none
  | p :: piece, c :: s => if p = c then stripPiece piece s else none

-- The text is made of the pieces, with a run of characters between each two.
def piecesMatch : List (List Char) → List Char → Bool
  | [], _ => false
  | [last], s => last == s
  | piece :: pieces, s =>
    match stripPiece piece s with
    | none => false
    | some rest => (afterRun rest).any (piecesMatch pieces)

-- The answers for a text and all of its tails.
def onTails (f : List Char → Bool) : List Char → List Bool
  | [] => [f []]
  | c :: s => f (c :: s) :: onTails f s

-- Answers for what is left behind a run, given those for all tails.
def behindRun : List Char → List Bool → List Bool
  | c :: s, b :: answers =>
    let rest := behindRun s answers
    (b || (c != '\n' && rest.headD false)) :: rest
  | _, answers => answers

-- Answers for what is left behind a piece, given those for all tails.
def behindPiece (piece : List Char) : List Char → List Bool → List Bool
  | [], answers => [first [] answers]
  | c :: s, answers => first (c :: s) answers :: behindPiece piece s answers.tail
where
  first (s : List Char) (answers : List Bool) : Bool :=
    (stripPiece piece s).isSome && (answers.drop piece.length).headD false

def answers : List (List Char) → List Char → List Bool
  | [], s => onTails (fun _ => false) s
  | [last], s => onTails (last == ·) s
  | piece :: pieces, s => behindPiece piece s (behindRun s (answers pieces s))

theorem headD_onTails (f : List Char → Bool) (s : List Char) : (onTails f s).headD false = f s := by
  cases s <;> rfl

theorem behindRun_onTails (f : List Char → Bool) (s : List Char) :
    behindRun s (onTails f s) = onTails (fun t => (afterRun t).any f) s := by
  induction s with
  | nil => simp [onTails, behindRun, afterRun]
  | cons c s ih =>
    simp only [onTails, behindRun, ih, headD_onTails, List.cons.injEq, and_true]
    by_cases h : c = '\n'
    · simp [afterRun, h]
    · have : (c != '\n') = true := by simpa using h
      simp [afterRun, h, this]

theorem drop_onTails {g : List Char → Bool} {piece s rest : List Char}
    (h : stripPiece piece s = some rest) :
    ((onTails g s).drop piece.length).headD false = g rest := by
  induction piece generalizing s with
  | nil =>
    simp only [stripPiece, Option.some.injEq] at h
    rw [h]
    exact headD_onTails g rest
  | cons p piece ih =>
    cases s with
    | nil => simp [stripPiece] at h
    | cons c s =>
      by_cases hc : p = c
      · simp only [stripPiece, hc, if_true] at h
        exact ih h
      · simp [stripPiece, hc] at h

theorem behindPiece_onTails (piece : List Char) (g : List Char → Bool) (s : List Char) :
    behindPiece piece s (onTails g s) =
      onTails (fun t => match stripPiece piece t with | none => false | some r => g r) s := by
  have first (t : List Char) : behindPiece.first piece t (onTails g t) =
      match stripPiece piece t with | none => false | some r => g r := by
    unfold behindPiece.first
    cases h : stripPiece piece t with
    | none => rfl
    | some r => simp only [Option.isSome_some, Bool.true_and, drop_onTails h]
  induction s with
  | nil => exact congrArg (fun b => [b]) (first [])
  | cons c s ih => exact List.cons_eq_cons.2 ⟨first (c :: s), ih⟩

theorem answers_eq (pieces : List (List Char)) (s : List Char) :
    answers pieces s = onTails (piecesMatch pieces) s := by
  induction pieces with
  | nil => simp only [answers, piecesMatch]
  | cons piece pieces ih =>
    cases pieces with
    | nil => simp only [answers, piecesMatch]
    | cons next pieces =>
      rw [answers, ih, behindRun_onTails, behindPiece_onTails]
      · simp only [piecesMatch]
      · simp

def accepts : NamePattern → String → Bool
  | any, _ => true
  | exact expected, name => expected == name
  | wildcard pieces, name => (answers pieces name.toList).headD false

-- A pattern with stars accepts what is made of its pieces.
theorem accepts_wildcard (pieces : List (List Char)) (name : String) :
    (wildcard pieces).accepts name = piecesMatch pieces name.toList := by
  rw [accepts, answers_eq, headD_onTails]

def isAny (p : NamePattern) : Bool := p == any

-- The name that a pattern without stars asks for.
def literal? : NamePattern → Option String
  | exact name => some name
  | _ => none

def text : NamePattern → String
  | any => "*"
  | exact name => name
  | wildcard pieces => "*".intercalate (pieces.map String.ofList)

end NamePattern
end Interpose
