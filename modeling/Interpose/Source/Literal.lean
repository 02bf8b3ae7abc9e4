import Interpose.Source.Scanning

namespace Interpose.Source

-- What may be a number with a fraction or an exponent is none.
structure IntegerLiteral where
  spelling : String
  value : Int
  deriving DecidableEq, Repr

def IntegerLiteral.ofValue (n : Int) : IntegerLiteral := ⟨toString n, n⟩

-- An exponent begins behind the letter e; letters without digits are a name instead.
def isExponent (behind : List Char) : Bool :=
  let digits := (behind.takeWhile isDigitOrGap).any Char.isDigit
  match behind.dropWhile isDigitOrGap with
  | [] => digits
  | c :: _ => c == '+' || c == '-' || (digits && Text.isIdentifierStart c)

def wholeDigits (base : Nat) : Nat → List Char → Option (Nat × List Char)
  | n, [] => some (n, [])
  | n, c :: rest =>
    if c = '_' then wholeDigits base n rest
    else if c.isDigit then
      match hexValue? c with
      | some d => if d < base then wholeDigits base (base * n + d) rest else none
      | none => none
    else if base = 10 then
      if c = '.' then none
      else if (c == 'e' || c == 'E') && isExponent rest then none
      else some (n, c :: rest)
    else
      match hexValue? c with
      | some d => if d < base then wholeDigits base (base * n + d) rest else some (n, c :: rest)
      | none => some (n, c :: rest)

def isName (cs : List Char) : Bool :=
  match cs with
  | [] => false
  | c :: rest => Text.isIdentifierStart c && rest.all Text.isIdentifierPart

-- The value of a number that is written as an integer.
def wholeValue? (spelling : List Char) : Option Nat := do
  let (base, digits) := match spelling with
    | '0' :: 'x' :: rest => (16, rest)
    | '0' :: 'o' :: rest => (8, rest)
    | '0' :: 'b' :: rest => (2, rest)
    | rest => (10, rest)
  let (n, suffix) ← wholeDigits base 0 digits
  let written := digits.take (digits.length - suffix.length)
  if written.any (· != '_') && (suffix.isEmpty || isName suffix) then return n else none

-- Reads the spelling of a number behind which sign there is.
def IntegerLiteral.ofSpelling? (negative : Bool) (spelling : String) : Option IntegerLiteral :=
  (wholeValue? spelling.toList).map fun n =>
    if negative then ⟨"-" ++ spelling, -(n : Int)⟩ else ⟨spelling, n⟩

end Interpose.Source
