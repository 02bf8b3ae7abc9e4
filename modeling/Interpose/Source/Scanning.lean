import Interpose.Source.Quoting
import Interpose.Source.Token
import Interpose.Text.Blank

namespace Interpose.Source

-- The characters that a reader took.
def taken (before after : List Char) : String :=
  String.ofList (before.take (before.length - after.length))

def literal (before : List Char) (token : String → Token) (rest : List Char) :
    Option (Token × List Char) :=
  let rest := dropSuffix rest
  some (token (taken before rest), rest)

-- A text in quotes, whose opening quote is taken from `cs`.
def scanText (cs rest : List Char) : Option (Token × List Char) := do
  let (value, rest) ← splitQuoted .text cs.length rest
  literal cs (fun spelling => .textual ⟨spelling, String.ofList value⟩) rest

-- A text that stands for itself, the letter before it being taken from `cs`.
def scanVerbatim (cs rest : List Char) : Option (Token × List Char) := do
  let (value, rest) ← splitVerbatim .text rest
  literal cs (fun spelling => .textual ⟨spelling, String.ofList value⟩) rest

-- A text that stands for something else than characters, the letter before it being taken from
-- `cs`.
def scanOther (q : Quotation) (cs : List Char) : List Char → Option (Token × List Char)
  | '"' :: rest => do literal cs .other (← splitQuoted q cs.length rest).2
  | 'r' :: rest => do literal cs .other (← splitVerbatim q rest).2
  | '\'' :: rest => do
    if q = .bytes then literal cs .other (← splitCharacter q rest).2 else none
  | _ => none

def isDigitOrGap (c : Char) : Bool := c.isDigit || c == '_'

-- Digits of an exponent, perhaps behind a sign.
def splitExponent (cs : List Char) : Option (List Char × List Char) :=
  let first := cs.takeWhile isDigitOrGap
  let rest := cs.dropWhile isDigitOrGap
  if first.any Char.isDigit then some (first, rest)
  else
    match rest with
    | sign :: rest =>
      let digits := rest.takeWhile isDigitOrGap
      if (sign == '+' || sign == '-') && digits.any Char.isDigit then
        some (first ++ sign :: digits, rest.dropWhile isDigitOrGap)
      else none
    | [] => none

-- A number with a fraction or an exponent. A point that another point or a name follows is none of
-- its own.
def splitFractional (cs : List Char) : Option (List Char × List Char) :=
  let whole := cs.takeWhile isDigitOrGap
  let rest := cs.dropWhile isDigitOrGap
  let exponent (rest : List Char) : Option (List Char × List Char) :=
    match rest with
    | c :: rest =>
      if c == 'e' || c == 'E' then (splitExponent rest).map fun p => (c :: p.1, p.2) else none
    | [] => none
  match rest with
  | '.' :: rest =>
    let stops := match rest with
      | c :: _ => c == '.' || Text.isIdentifierStart c
      | [] => false
    if stops then none
    else
      let fraction := rest.takeWhile isDigitOrGap
      let rest := rest.dropWhile isDigitOrGap
      let (tail, rest) := (exponent rest).getD ([], rest)
      some (whole ++ '.' :: fraction ++ tail, rest)
  | rest => (exponent rest).map fun p => (whole ++ p.1, p.2)

-- A number in digits of a base, perhaps behind a prefix that names it.
def splitWhole : List Char → Option (List Char × List Char)
  | '0' :: b :: rest =>
    match b with
    | 'x' => digits ['0', 'x'] 16 rest
    | 'o' => digits ['0', 'o'] 8 rest
    | 'b' => digits ['0', 'b'] 2 rest
    | _ => digits [] 10 ('0' :: b :: rest)
  | cs => digits [] 10 cs
where
  digits (before : List Char) (base : Nat) (cs : List Char) : Option (List Char × List Char) :=
    let counts (c : Char) : Bool :=
      c == '_' || c.isDigit || ((hexValue? c).any (· < base))
    let run := cs.takeWhile counts
    let fits := run.all fun c => !c.isDigit || (hexValue? c).any (· < base)
    if fits && run.any (· != '_') then some (before ++ run, cs.dropWhile counts) else none

-- No character follows that only continues names.
def wordEnds : List Char → Bool
  | c :: _ => !Text.isIdentifierPart c
  | [] => true

def scanNumber (cs : List Char) : Option (Token × List Char) :=
  (number (splitFractional cs)).or (number (splitWhole cs))
where
  number (s : Option (List Char × List Char)) : Option (Token × List Char) := do
    let rest := dropSuffix (← s).2
    if wordEnds rest then return (.number (taken cs rest), rest) else none

-- Names that stay reserved behind the sign for names as they are.
def unraisable : List String := ["_", "super", "self", "Self", "crate"]

-- A name, perhaps behind the sign for names as they are.
def splitAnyName : List Char → Option (String × List Char)
  | 'r' :: '#' :: rest => do
    let (name, rest) ← splitName rest
    if unraisable.contains (String.ofList name) then none
    else return ("r#" ++ String.ofList name, rest)
  | cs => (splitName cs).map fun p => (String.ofList p.1, p.2)

-- A name behind a single quote, the quote being taken.
def scanLifetime (cs : List Char) : Option (Token × List Char) := do
  let (name, rest) ← splitAnyName cs
  match rest with
  | '\'' :: _ => none
  | '#' :: _ => if ['r', '#'].isPrefixOf cs then return (.lifetime name, rest) else none
  | _ => return (.lifetime name, rest)

-- A character between single quotes or a lifetime, its first quote being taken from `cs`.
def scanQuote (cs rest : List Char) : Option (Token × List Char) :=
  match splitCharacter .text rest with
  | some (_, rest) => literal cs .other rest
  | none => scanLifetime rest

-- What begins like a literal is no name.
def literalStarts : List String :=
  ["r\"", "r#\"", "r##", "b\"", "b'", "br\"", "br#", "c\"", "cr\"", "cr#"]

def scanWord (cs : List Char) : Option (Token × List Char) := do
  if literalStarts.any fun start => start.toList.isPrefixOf cs then none
  else
    let (name, rest) ← splitAnyName cs
    return (.word name, rest)

def isMark (c : Char) : Bool := "~!@#$%^&*-=+|;:,<.>/?".toList.contains c

-- Marks of which several make up one token. A comment begins with none.
def scanMark : List Char → Option (Token × List Char)
  | ':' :: ':' :: rest => some (.mark "::", rest)
  | '-' :: '>' :: rest => some (.mark "->", rest)
  | '.' :: '.' :: '.' :: rest => some (.mark "...", rest)
  | '/' :: '/' :: _ | '/' :: '*' :: _ => none
  | c :: rest => if isMark c then some (.mark (String.ofList [c]), rest) else none
  | [] => none

-- The first token of a text that begins with one.
def scanToken : List Char → Option (Token × List Char)
  | '(' :: rest => some (.opening .paren, rest)
  | ')' :: rest => some (.closing .paren, rest)
  | '[' :: rest => some (.opening .bracket, rest)
  | ']' :: rest => some (.closing .bracket, rest)
  | '\x7b' :: rest => some (.opening .brace, rest)
  | '\x7d' :: rest => some (.closing .brace, rest)
  | '"' :: rest => scanText ('"' :: rest) rest
  | '\'' :: rest => scanQuote ('\'' :: rest) rest
  | 'r' :: rest => (scanVerbatim ('r' :: rest) rest).or (scanWord ('r' :: rest))
  | 'b' :: rest => (scanOther .bytes ('b' :: rest) rest).or (scanWord ('b' :: rest))
  | 'c' :: rest => (scanOther .withoutNull ('c' :: rest) rest).or (scanWord ('c' :: rest))
  | c :: rest =>
    if c.isDigit then scanNumber (c :: rest)
    else (scanWord (c :: rest)).or (scanMark (c :: rest))
  | [] => none

def splitLine : List Char → List Char × List Char
  | [] => ([], [])
  | '\n' :: rest => ([], '\n' :: rest)
  | '\r' :: '\n' :: rest => ([], '\n' :: rest)
  | c :: rest => (c :: (splitLine rest).1, (splitLine rest).2)

-- What follows a comment that may hold comments, so many of them being open.
def dropComment : Nat → List Char → Option (List Char)
  | _, [] => none
  | depth, '/' :: '*' :: rest => dropComment (depth + 1) rest
  | depth, '*' :: '/' :: rest =>
    match depth with
    | 0 => some rest
    | depth + 1 => dropComment depth rest
  | depth, _ :: rest => dropComment depth rest

-- What stands in a comment with two characters before it and two behind it.
def commentText (comment rest : List Char) : List Char :=
  comment.take (comment.length - rest.length - 2)

-- A carriage return stands before something else than a line feed.
def hasBareReturn : List Char → Bool
  | [] => false
  | '\r' :: '\n' :: rest => hasBareReturn rest
  | '\r' :: _ => true
  | _ :: rest => hasBareReturn rest

-- The attribute that a comment stands for; it is on what encloses it or on what follows.
def remark (inner : Bool) (text : List Char) : List Token :=
  .mark "#" :: (if inner then [.mark "!"] else []) ++
    [.opening .bracket, .word "doc", .mark "=", .textual (.ofValue (String.ofList text)),
      .closing .bracket]

-- What a comment stands for, if one begins here: nothing or an attribute.
def splitComment : List Char → Option (List Token × List Char)
  | '/' :: '/' :: rest =>
    let (text, after) := splitLine rest
    match text with
    | '!' :: text => note true text after
    | '/' :: '/' :: _ => some ([], after)
    | '/' :: text => note false text after
    | _ => some ([], after)
  | '/' :: '*' :: rest => do
    let after ← dropComment 0 rest
    match commentText rest after with
    | '!' :: text => note true text after
    | ['*'] | '*' :: '*' :: _ => return ([], after)
    | '*' :: text => note false text after
    | _ => return ([], after)
  | _ => none
where
  note (inner : Bool) (text after : List Char) : Option (List Token × List Char) :=
    if hasBareReturn text then none else some (remark inner text, after)

-- Also the two marks that turn the direction of writing count as white space.
def isGap (c : Char) : Bool := Text.isBlank c || c == '\u200e' || c == '\u200f'

-- The tokens of a text. The bound is the number of characters that are left, of which each round
-- takes at least one.
def scanTokens : Nat → List Char → Option (List Token)
  | _, [] => some []
  | 0, _ => none
  | bound + 1, c :: rest =>
    if isGap c then scanTokens bound rest
    else do
      match splitComment (c :: rest) with
      | some (tokens, rest) => return tokens ++ (← scanTokens bound rest)
      | none =>
        let (t, rest) ← scanToken (c :: rest)
        return t :: (← scanTokens bound rest)

-- What follows the mark for the order of bytes.
def dropByteOrder : List Char → List Char
  | '\ufeff' :: rest => rest
  | cs => cs

-- The tokens of a text in which every group is closed.
def scan (s : String) : Option (List Token) :=
  (scanTokens s.length (dropByteOrder s.toList)).filter (balanced [])

end Interpose.Source
